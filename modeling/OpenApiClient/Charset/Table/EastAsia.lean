import OpenApiClient.Charset.Table.Listed
import OpenApiClient.Packed

/-!
# East Asian tables

The standards have 94 rows with 94 characters each, and their codes are counted from 0x2121.
-/

namespace OpenApiClient.Charset.Ideographs

/-! ## Ideographs in character sets -/

open Packed

/-! ### Sets -/

/-- A class by now: its ideographs, last first, their number, how many come after the latest one,
its code point, and how many were added without a larger gap. -/
structure Class where
  members : List Nat := []
  size : UInt64 := 0
  shift : UInt64 := 0
  point : UInt64 := 0
  run : UInt64 := 0

/-- A part by now: the bits for its classes, the class of the latest ideograph, and all classes. -/
structure Part where
  width : Nat
  recent : UInt64 := 0
  classes : Array Class := .replicate (1 <<< width) {}

/-- A set by now: its parts, those of the last eight code points, the classes of the last two
ideographs, and the last code point. -/
structure Holding where
  parts : Array Part := #[]
  history : UInt64 := 0
  recent : UInt64 := 0
  before : UInt64 := 0
  point : UInt64 := 0

/-- The sets: Big5 by strokes, GB 2312 by readings and by radicals, KS X 1001 by readings, JIS X
0208 by readings and by radicals with JIS X 0212, what JIS X 0213 adds in two planes, and the
supplement of Hong Kong. -/
def start : Array Holding :=
  #[#[5, 5], #[9, 7], #[9], #[9, 0, 0], #[0, 0], #[0]].map fun widths =>
    { parts := widths.map fun width => { width } }

/-- What has been read: the sets, the parts that the code point before and this one are in, and the
classes of this one. -/
structure Reading where
  sets : Array Holding := start
  before : UInt64 := 0
  parts : UInt64 := 0
  classes : Array UInt64 := #[]

/-! ### Situations -/

/-- How large a gap is, in a few degrees. -/
def degree (gap : UInt64) : UInt64 :=
  if gap < 4 then gap else if gap < 8 then 4 else if gap < 16 then 5 else 6

/-- The situations in which the part of a set comes next. -/
def partKeys (reading : Reading) (place point : UInt64) (set : Holding) : List UInt32 :=
  let ⟨sets, before, parts, classes⟩ := reading
  let history := set.history
  [situation 0 place parts 0, situation 1 place parts (history &&& 0xff),
    situation 2 place history 0, situation 3 place parts before,
    situation 4 place (point >>> 5) 0, situation 5 place parts (point >>> 7),
    situation 6 place parts (sets[0]?.elim 0 Holding.recent),
    situation 7 place parts ((history &&& 0xf) * 128 + classes.getD 0 0)]

/-- The situations in which the class of a part comes next. -/
def classKeys (classes : Array UInt64) (index place point : UInt64) (set : Holding) (part : Part) :
    List UInt32 :=
  let recent := set.recent
  let recentOf (number : Nat) : UInt64 := set.parts[number]?.elim 0 Part.recent
  let chinese := classes.getD 1 0
  let korean := classes.getD 2 0
  [situation 8 place part.recent 0, situation 9 index recent 0,
    situation 10 index (recentOf 0) (recentOf 1),
    situation 11 index recent (degree (point - set.point)), situation 12 index (point >>> 6) 0,
    situation 13 place recent set.before, situation 14 index recent part.recent,
    situation 15 place chinese 0, situation 16 place korean 0, situation 17 place chinese korean,
    situation 18 place (chinese >>> 5) (korean >>> 5)]

/-- The situations in which the place in a class comes next. -/
def shiftKeys (place point number : UInt64) (members : Class) : List UInt32 :=
  let shift := members.shift
  let gap := degree (point - members.point)
  let size := min members.size 40
  let run := min members.run 30
  [situation 19 place shift 0, situation 20 place shift gap, situation 21 place size 0,
    situation 22 place gap 0, situation 23 place number 0, situation 24 place shift size,
    situation 25 place run 0, situation 26 place shift run]

/-! ### Reading -/

def addTo (part : Part) (place number point : Nat) (state : Unpacking) : Part × Unpacking :=
  let members := part.classes.getD number {}
  let run := if point.toUInt64 - members.point ≤ 32 then members.run else 0
  let keys :=
    shiftKeys place.toUInt64 point.toUInt64 number.toUInt64 { members with run }
  let (shift, state) :=
    if members.size = 0 then (0, state) else state.readNumber keys (112 + place)
  let members : Class := ⟨members.members.insertIdx shift point, members.size + 1,
    shift.toUInt64, point.toUInt64, run + 1⟩
  ({ part with recent := number.toUInt64, classes := part.classes.setIfInBounds number members },
    state)

def readSet (range point : Nat) (reading : Reading × Unpacking) (index : Nat) :
    Reading × Unpacking :=
  let (reading, state) := reading
  let set := reading.sets.getD index {}
  let keys := partKeys reading (index * 8 + range).toUInt64 point.toUInt64 set
  let (number, state) := state.readFixed keys 0 (64 + index) 2
  let ⟨sets, before, parts, classes⟩ := reading
  let set := { set with history := (set.history * 4 + number.toUInt64) &&& 0xffff }
  let parts := parts * 4 + number.toUInt64
  match if number = 0 then none else set.parts[number - 1]? with
  | none => (⟨sets.setIfInBounds index set, before, parts, classes.push 0⟩, state)
  | some part =>
    let place := index * 4 + number
    let keys := classKeys classes index.toUInt64 place.toUInt64 point.toUInt64 set part
    let (member, state) := state.readFixed keys 0 (80 + place) part.width
    let (part, state) := addTo part place member point state
    let set : Holding := ⟨set.parts.setIfInBounds (number - 1) part, set.history,
      member.toUInt64, set.recent, point.toUInt64⟩
    (⟨sets.setIfInBounds index set, before, parts,
      classes.push (member * 4 + number).toUInt64⟩, state)

def readPoint (range first : Nat) (reading : Reading × Unpacking) (point : Nat) :
    Reading × Unpacking :=
  let (reading, state) := reading
  (List.range' first (6 - first)).foldl (readSet range point)
    (⟨reading.sets, reading.parts, 0, .replicate first 0⟩, state)

/-- The ranges of ideographs: the first, their number, and the first set that has some. -/
def ranges : List (Nat × Nat × Nat) :=
  [(0x3400, 0x19b6, 4), (0x4e00, 0x51b4, 0), (0xf900, 0x200, 0), (0x20000, 0xa6d7, 4),
   (0x2f800, 0x220, 4)]

/-- The ideographs that a packed text lists, by sets and parts. -/
def unpack (text : String) : Array (Array (List Nat)) :=
  let (reading, _) := ranges.zipIdx.foldl (fun reading ((point, count, first), range) =>
    (List.range' point count).foldl (readPoint range first) reading)
    (({} : Reading), Unpacking.start text 160)
  reading.sets.map fun set => set.parts.map fun part =>
    part.classes.toList.flatMap fun members => members.members.reverse

end OpenApiClient.Charset.Ideographs

namespace OpenApiClient.Charset

/-! ## Tables of characters -/

/-- Rows of characters, each with the code of the first one. -/
structure Table where
  rows : Thunk (List (Nat × Array (Option Char)))

namespace Table

/-- Characters in the rows that runs of codes give. -/
def rowsOf : (runs : List (Nat × Nat)) → (chars : List (Option Char)) →
    List (Nat × Array (Option Char))
  | [], _ => []
  | (code, count) :: runs, chars =>
    (code, (chars.take count).toArray) :: rowsOf runs (chars.drop count)

/-- The runs of codes of several first bytes with the same second bytes. -/
def leadRows (first count : Nat) (runs : List (Nat × Nat)) : List (Nat × Nat) :=
  (List.range count).flatMap fun lead => runs.map fun run => ((first + lead) * 256 + run.1, run.2)

/-- The characters of cells: the next of some ideographs, none, or a code point. -/
def charsOf : (cells ideographs : List Nat) → List (Option Char)
  | [], _ => []
  | 0 :: cells, point :: points => some (Char.ofNat point) :: charsOf cells points
  | cell :: cells, points =>
    (if cell ≤ 1 then none else some (Char.ofNat cell)) :: charsOf cells points

def char? (table : Table) (code : Nat) : Option Char :=
  table.rows.get.findSome? fun (first, chars) =>
    if first ≤ code then (chars[code - first]?).join else none

def entries (table : Table) : List (Nat × Char) :=
  table.rows.get.flatMap fun (first, chars) =>
    chars.toList.zipIdx.filterMap fun (char?, index) => char?.map (first + index, ·)

/-- The character of two bytes with their highest bits set. -/
def highChar? (table : Table) (code : Nat) : Option Char :=
  if 0x80 ≤ code / 256 && 0x80 ≤ code % 256 then table.char? (code - 0x8080) else none

end Table

end OpenApiClient.Charset

namespace OpenApiClient.Charset.Table

/-! ## The tables -/

/-- The ideographs of the sets, by set and part. -/
def ideographs : Thunk (Array (Array (List Nat))) :=
  Thunk.mk fun _ => Ideographs.unpack packedIdeographs

def cells : Thunk (Array (List Nat)) := Thunk.mk fun _ => Packed.lists packedCells 12

/-- The table with an index: its first bytes, its second bytes, and the set and the parts of it with
its ideographs. -/
def ofCells (index first count : Nat) (runs : List (Nat × Nat)) (set : Nat) (parts : List Nat) :
    Table :=
  ⟨Thunk.mk fun _ =>
    let points := parts.flatMap fun part => (ideographs.get.getD set #[]).getD part []
    rowsOf (leadRows first count runs) (charsOf (cells.get.getD index []) points)⟩

/-- The second bytes of the standards. -/
def standard : List (Nat × Nat) := [(0x21, 94)]

/-- The second bytes of Big5. -/
def low : List (Nat × Nat) := [(0x40, 63), (0xa1, 94)]

/-- The second bytes of GBK. -/
def wide : List (Nat × Nat) := [(0x40, 63), (0x80, 127)]

/-! ### Japan -/

/-- The characters of JIS X 0208. -/
def japanese : Table := .ofCells 0 0x21 84 standard 3 [0, 1]

/-- The characters of JIS X 0212. -/
def japaneseSupplement : Table := .ofCells 5 0x22 76 standard 3 [2]

/-- What the first plane of JIS X 0213 adds to the basic set. -/
def firstPlane : Table := .ofCells 6 0x22 93 standard 4 [0]

/-- Codes of the first plane for a letter together with a mark. -/
def firstPlanePairs : List (Nat × List Char) :=
  [(0x2477, ['か', '゚']), (0x2478, ['き', '゚']), (0x2479, ['く', '゚']),
   (0x247a, ['け', '゚']), (0x247b, ['こ', '゚']), (0x2577, ['カ', '゚']),
   (0x2578, ['キ', '゚']), (0x2579, ['ク', '゚']), (0x257a, ['ケ', '゚']),
   (0x257b, ['コ', '゚']), (0x257c, ['セ', '゚']), (0x257d, ['ツ', '゚']),
   (0x257e, ['ト', '゚']), (0x2678, ['ㇷ', '゚']), (0x2b44, ['æ', '̀']),
   (0x2b48, ['ɔ', '̀']), (0x2b49, ['ɔ', '́']), (0x2b4a, ['ʌ', '̀']),
   (0x2b4b, ['ʌ', '́']), (0x2b4c, ['ə', '̀']), (0x2b4d, ['ə', '́']),
   (0x2b4e, ['ɚ', '̀']), (0x2b4f, ['ɚ', '́']), (0x2b65, ['˩', '˥']), (0x2b66, ['˥', '˩'])]

/-- Codes of the first plane that have a character since 2004 only. -/
def firstPlaneLater : List Nat :=
  [0x2e21, 0x2f7e, 0x4f54, 0x4f7e, 0x7427, 0x7e7a, 0x7e7b, 0x7e7c, 0x7e7d, 0x7e7e]

/-- The characters of the second plane of JIS X 0213. -/
def secondPlane : Table := .ofCells 7 0x21 94 standard 4 [1]

/-- What Windows adds or has in place of other characters. -/
def japaneseWindows : Table := .ofCells 8 0x81 124 [(0x40, 63), (0x80, 125)] 0 []

/-! ### Korea -/

/-- The characters of KS X 1001. -/
def korean : Table := .ofCells 2 0x21 93 standard 2 [0]

/-! ### Mainland China -/

def gb2312 : Table := .ofCells 1 0x21 87 standard 1 [0, 1]

/-- What GBK adds or has in place of other characters, ideographs in order apart. -/
def gbkSigns : Table := .ofCells 9 0xa1 94 wide 0 []

/-- The ideographs that GB 2312 does not have, in order. -/
def gbkIdeographs (_ : Unit) : List (Option Char) :=
  let known := (gb2312.entries.map (·.2.toNat)).foldl (fun points point =>
    points.setIfInBounds point true) (Array.replicate 0x10000 false)
  ((List.range' 0x4e00 20902).filter fun point => !known.getD point false).map fun point =>
    some (Char.ofNat point)

/-- Runs of codes for the ideographs that GBK adds: the first, and their number. The second byte is
never 0x7f, and a first byte of GB 2312 leaves the higher second bytes to it. -/
def gbkRuns : List (Nat × Nat) :=
  let runs (last lead : Nat) : List (Nat × Nat) :=
    [(lead * 256 + 0x40, 63), (lead * 256 + 0x80, last - 0x7f)]
  (List.range' 0x81 32).flatMap (runs 0xfe) ++ (List.range' 0xaa 85).flatMap (runs 0xa0)

/-- The characters that GBK adds or has in place of others. -/
def gbkExtra : Table :=
  ⟨Thunk.mk fun _ => gbkSigns.rows.get ++ rowsOf gbkRuns (gbkIdeographs ())⟩

/-- What GB 18030 adds to GBK, most of it in private use. -/
def gb18030Extra : Table := .ofCells 10 0xa1 94 wide 0 []

/-! ### Taiwan and Hong Kong -/

def big5 : Table := .ofCells 3 0xa1 89 low 0 [0, 1]

/-- The characters that Windows adds or has in place of others. -/
def big5Windows : Table := .ofCells 11 0xa1 89 low 0 []

/-- The characters that Hong Kong adds to Big5. -/
def hongKong : Table := .ofCells 4 0x87 120 low 5 [0]

/-- Codes of Hong Kong for a letter together with a mark. -/
def hongKongPairs : List (Nat × List Char) :=
  [(0x8862, ['Ê', '̄']), (0x8864, ['Ê', '̌']), (0x88a3, ['ê', '̄']),
   (0x88a5, ['ê', '̌'])]

end OpenApiClient.Charset.Table
