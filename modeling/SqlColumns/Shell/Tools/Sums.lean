import SqlColumns.Shell.Report
import SqlColumns.Shell.Tools.Printing

/-!
# Check sums

Programs that boil files down to a few digits, or write their bytes in letters and digits. The sums
are computed on words of 32 or 64 bits, and the constants of some of them are the digits of roots of
primes.
-/

set_option autoImplicit false

namespace SqlColumns.Shell.Tools

/-- Bytes filled up to a whole number of blocks: a bit, zeros, and the number of bits at the end. -/
def paddedBlocks (size : Nat) (lowFirst : Bool) (text : List Char) : List Char :=
  let lengthBytes := size / 8
  let bits := text.length * 8
  let used := text.length + 1 + lengthBytes
  let zeros := (size - used % size) % size
  let digits := (List.range lengthBytes).map fun place =>
    Char.ofNat (bits / Nat.pow 256 place % 256)
  text ++ ['\x80'] ++ List.replicate zeros '\x00' ++ if lowFirst then digits else digits.reverse

def piecesOf (length : Nat) : Nat → List Char → List (List Char)
  | 0, _ | _, [] => []
  | fuel + 1, text => text.take length :: piecesOf length fuel (text.drop length)

def highFirst (bytes : List Char) : Nat :=
  bytes.foldl (fun value c => value * 256 + c.toNat) 0

def lowFirst (bytes : List Char) : Nat :=
  highFirst bytes.reverse

def hexDigits (width value : Nat) : String :=
  zeroPadded width (inBase 16 value)

/-- The largest number whose power is not above another one, below a power of two. -/
def wholeRoot (power value : Nat) : Nat → Nat → Nat
  | 0, low => low
  | bit + 1, low =>
      let next := low + Nat.pow 2 bit
      wholeRoot power value bit (if Nat.pow next power ≤ value then next else low)

def primes (count : Nat) : List Nat :=
  let isPrime (number : Nat) : Bool :=
    ((List.range number).drop 2).all fun divisor => number % divisor != 0
  (((List.range 420).drop 2).filter isPrime).take count

def rootBits (power bits count : Nat) : List Nat :=
  (primes count).map fun number =>
    wholeRoot power (number * Nat.pow 2 (bits * power)) (bits + 8) 0 % Nat.pow 2 bits

def turned (bits word amount : Nat) : Nat :=
  (word >>> amount) ||| ((word <<< (bits - amount)) % Nat.pow 2 bits)

/-- How the sums of the second family mix words: how many bits these have, how many rounds there
are, and by how much words are turned or shifted in the places where they are mixed. -/
structure Mixing where
  bits : Nat
  rounds : Nat
  first : Nat × Nat × Nat
  second : Nat × Nat × Nat
  large : Nat × Nat × Nat
  small : Nat × Nat × Nat

def shortMixing : Mixing := ⟨32, 64, (7, 18, 3), (17, 19, 10), (2, 13, 22), (6, 11, 25)⟩

def longMixing : Mixing := ⟨64, 80, (1, 8, 7), (19, 61, 6), (28, 34, 39), (14, 18, 41)⟩

def Mixing.turns (mixing : Mixing) (amounts : Nat × Nat × Nat) (word : Nat) : Nat :=
  turned mixing.bits word amounts.1 ^^^ turned mixing.bits word amounts.2.1 ^^^
    turned mixing.bits word amounts.2.2

def Mixing.shifts (mixing : Mixing) (amounts : Nat × Nat × Nat) (word : Nat) : Nat :=
  turned mixing.bits word amounts.1 ^^^ turned mixing.bits word amounts.2.1 ^^^
    (word >>> amounts.2.2)

def Mixing.schedule (mixing : Mixing) (block : List Char) : Array Nat :=
  let limit := Nat.pow 2 mixing.bits
  let start := ((piecesOf (mixing.bits / 8) 16 block).map highFirst).toArray
  (List.range (mixing.rounds - 16)).foldl (fun (words : Array Nat) step =>
    let word (back : Nat) : Nat := words.getD (step + 16 - back) 0
    words.push ((mixing.shifts mixing.second (word 2) + word 7 +
      mixing.shifts mixing.first (word 15) + word 16) % limit)) start

def Mixing.absorb (mixing : Mixing) (constants : List Nat) (state : List Nat)
    (block : List Char) : List Nat :=
  let limit := Nat.pow 2 mixing.bits
  let words := (mixing.schedule block).toList
  let mixed := (words.zip constants).foldl (fun (state : List Nat) (word, constant) =>
    match state with
    | [a, b, c, d, e, f, g, h] =>
        let choice := (e &&& f) ^^^ ((limit - 1 - e) &&& g)
        let majority := (a &&& b) ^^^ (a &&& c) ^^^ (b &&& c)
        let first := h + mixing.turns mixing.small e + choice + constant + word
        let second := mixing.turns mixing.large a + majority
        [(first + second) % limit, a, b, c, (d + first) % limit, e, f, g]
    | _ => state) state
  (state.zip mixed).map fun one => (one.1 + one.2) % limit

/-- A sum of the second family: with its first words, and as many digits as are wanted. -/
def secondFamily (mixing : Mixing) (start : List Nat) (digits : Nat) (text : String) : String :=
  let constants := rootBits 3 mixing.bits mixing.rounds
  let size := mixing.bits * 2
  let blocks := piecesOf size (text.length + 4) (paddedBlocks size false text.toList)
  let state := blocks.foldl (mixing.absorb constants) start
  String.ofList ((String.join (state.map (hexDigits (mixing.bits / 4)))).toList.take digits)

def sum256 (text : String) : String :=
  secondFamily shortMixing (rootBits 2 32 8) 64 text

def sum512 (text : String) : String :=
  secondFamily longMixing (rootBits 2 64 8) 128 text

def sum384 (text : String) : String :=
  secondFamily longMixing ((rootBits 2 64 16).drop 8) 96 text

def sum224 (text : String) : String :=
  let start := (rootBits 2 64 16).drop 8
  secondFamily shortMixing (start.map (· % 0x100000000)) 56 text

def turnedLeft (word amount : Nat) : Nat :=
  turned 32 word (32 - amount)

def sum160 (text : String) : String :=
  let limit := 0x100000000
  let start := [0x67452301, 0xEFCDAB89, 0x98BADCFE, 0x10325476, 0xC3D2E1F0]
  let absorb (state : List Nat) (block : List Char) : List Nat :=
    let first := ((piecesOf 4 16 block).map highFirst).toArray
    let words := (List.range 64).foldl (fun (words : Array Nat) step =>
      let word (back : Nat) : Nat := words.getD (step + 16 - back) 0
      words.push (turnedLeft (word 3 ^^^ word 8 ^^^ word 14 ^^^ word 16) 1)) first
    let mixed := words.toList.zipIdx.foldl (fun (state : List Nat) (word, step) =>
      match state with
      | [a, b, c, d, e] =>
          let (mix, constant) :=
            if step < 20 then ((b &&& c) ||| ((limit - 1 - b) &&& d), 0x5A827999)
            else if step < 40 then (b ^^^ c ^^^ d, 0x6ED9EBA1)
            else if step < 60 then ((b &&& c) ||| (b &&& d) ||| (c &&& d), 0x8F1BBCDC)
            else (b ^^^ c ^^^ d, 0xCA62C1D6)
          [(turnedLeft a 5 + mix + e + constant + word) % limit, a, turnedLeft b 30, c, d]
      | _ => state) state
    (state.zip mixed).map fun one => (one.1 + one.2) % limit
  let blocks := piecesOf 64 (text.length + 4) (paddedBlocks 64 false text.toList)
  String.join ((blocks.foldl absorb start).map (hexDigits 8))

def sineWords : Array Nat :=
  #[0xD76AA478, 0xE8C7B756, 0x242070DB, 0xC1BDCEEE, 0xF57C0FAF, 0x4787C62A, 0xA8304613, 0xFD469501,
    0x698098D8, 0x8B44F7AF, 0xFFFF5BB1, 0x895CD7BE, 0x6B901122, 0xFD987193, 0xA679438E, 0x49B40821,
    0xF61E2562, 0xC040B340, 0x265E5A51, 0xE9B6C7AA, 0xD62F105D, 0x02441453, 0xD8A1E681, 0xE7D3FBC8,
    0x21E1CDE6, 0xC33707D6, 0xF4D50D87, 0x455A14ED, 0xA9E3E905, 0xFCEFA3F8, 0x676F02D9, 0x8D2A4C8A,
    0xFFFA3942, 0x8771F681, 0x6D9D6122, 0xFDE5380C, 0xA4BEEA44, 0x4BDECFA9, 0xF6BB4B60, 0xBEBFBC70,
    0x289B7EC6, 0xEAA127FA, 0xD4EF3085, 0x04881D05, 0xD9D4D039, 0xE6DB99E5, 0x1FA27CF8, 0xC4AC5665,
    0xF4292244, 0x432AFF97, 0xAB9423A7, 0xFC93A039, 0x655B59C3, 0x8F0CCC92, 0xFFEFF47D, 0x85845DD1,
    0x6FA87E4F, 0xFE2CE6E0, 0xA3014314, 0x4E0811A1, 0xF7537E82, 0xBD3AF235, 0x2AD7D2BB, 0xEB86D391]

def sum128 (text : String) : String :=
  let limit := 0x100000000
  let amounts := [[7, 12, 17, 22], [5, 9, 14, 20], [4, 11, 16, 23], [6, 10, 15, 21]]
  let start := [0x67452301, 0xEFCDAB89, 0x98BADCFE, 0x10325476]
  let absorb (state : List Nat) (block : List Char) : List Nat :=
    let words := ((piecesOf 4 16 block).map lowFirst).toArray
    let mixed := (List.range 64).foldl (fun (state : List Nat) step =>
      match state with
      | [a, b, c, d] =>
          let (mix, place) :=
            match step / 16 with
            | 0 => ((b &&& c) ||| ((limit - 1 - b) &&& d), step)
            | 1 => ((d &&& b) ||| ((limit - 1 - d) &&& c), 5 * step + 1)
            | 2 => (b ^^^ c ^^^ d, 3 * step + 5)
            | _ => (c ^^^ (b ||| (limit - 1 - d)), 7 * step)
          let amount := (amounts.getD (step / 16) []).getD (step % 4) 0
          let sum := (a + mix + sineWords.getD step 0 + words.getD (place % 16) 0) % limit
          [d, (b + turnedLeft sum amount) % limit, b, c]
      | _ => state) state
    (state.zip mixed).map fun one => (one.1 + one.2) % limit
  let blocks := piecesOf 64 (text.length + 4) (paddedBlocks 64 true text.toList)
  let digits (word : Nat) : String :=
    String.join ((List.range 4).map fun place => hexDigits 2 (word / Nat.pow 256 place % 256))
  String.join ((blocks.foldl absorb start).map digits)

def printSums (title : String) (sum : String → String) : Utility :=
  withOptions 1 ⟨"bctwzqsTSI", [("binary", 'b'), ("check", 'c'), ("text", 't'), ("warn", 'w'),
    ("zero", 'z'), ("quiet", 'q'), ("status", 's'), ("tag", 'T'), ("strict", 'S'),
    ("ignore-missing", 'I')]⟩ false fun scene choices names =>
      let readings := scene.readings asIs names
      if given choices 'c' then
        let lines := (textsIn readings).flatMap fun one => plainLines one.2
        let checked := lines.filterMap fun line =>
          let digits := line.toList.takeWhile (· != ' ')
          let name := String.ofList (line.toList.drop (digits.length + 2))
          if name.isEmpty then none else some (String.ofList digits, name)
        let results := checked.map fun (digits, name) =>
          match scene.read name with
          | .ok text => (name, some (sum text == digits))
          | .error _ => (name, none)
        let failed := (results.filter fun one => one.2 = some false).length
        let missing := (results.filter fun one => one.2 = none).length
        let silent := given choices 's'
        let output := results.filterMap fun (name, good) =>
          match good with
          | some true => if silent || given choices 'q' then none else some s!"{name}: OK\n"
          | some false => if silent then none else some s!"{name}: FAILED\n"
          | none => if silent then none else some s!"{name}: FAILED open or read\n"
        let unread := results.filterMap fun (name, good) =>
          if good.isNone then
            some s!"{scene.called}: {name}: {plainMessage .notFound}\n"
          else none
        let warning (count : Nat) (one many : String) : List String :=
          if count = 0 ∨ silent then []
          else
            let text := if count = 1 then one else many
            [s!"{scene.called}: WARNING: {inBase 10 count} {text}\n"]
        let complaints := complaintsIn readings ++ unread ++
          warning missing "listed file could not be read" "listed files could not be read" ++
          warning failed "computed checksum did NOT match" "computed checksums did NOT match"
        let source := names.headD "'standard input'"
        let empty := checked.isEmpty && (complaintsIn readings).isEmpty
        let complaints := if empty then
            [s!"{scene.called}: {source}: no properly formatted " ++
              "checksum lines found\n"]
          else complaints
        let code := if complaints.isEmpty && failed = 0 && missing = 0 then 0 else 1
        let written := (complaintsIn readings ++ unread).map fun text => (Stream.errors, text)
        let behind := complaints.drop written.length
        let report : List (Stream × String) :=
          written ++ output.map (fun text => (Stream.output, text)) ++
            behind.map fun text => (Stream.errors, text)
        Ended.afterReadingOf ⟨.exited code, report, scene.input, scene.files⟩ names
      else
        let mark := if lastOf? choices "bt" = some 'b' then "*" else " "
        let report := readings.foldl (fun (report : Report) one =>
          match one.2 with
          | .error complaint => report.complain complaint
          | .ok text =>
              report.print <|
                if given choices 'T' then s!"{title} ({one.1}) = {sum text}\n"
                else s!"{sum text} {mark}{one.1}\n") ⟨[], false⟩
        (report.ended scene 1).afterReadingOf names

/-- A word of 32 bits behind a byte, by the polynomial of the cyclic check. -/
def cyclicStep (word byte : Nat) : Nat :=
  (List.range 8).foldl (fun word _ =>
    let next := word * 2 % 0x100000000
    if 0x80000000 ≤ word then next ^^^ 0x04C11DB7 else next) (word ^^^ (byte * 0x1000000))

def lengthBytes : Nat → Nat → List Nat
  | 0, _ => []
  | fuel + 1, length => if length = 0 then [] else length % 256 :: lengthBytes fuel (length / 256)

def cyclicCheck (text : String) : Nat :=
  let bytes := text.toList.map Char.toNat ++ lengthBytes 16 text.length
  0xFFFFFFFF - bytes.foldl cyclicStep 0

def printChecks : Utility :=
  withOptions 1 ⟨"a:", [("algorithm", 'a')]⟩ false fun scene _ names =>
    let report := (scene.readings asIs names).foldl (fun (report : Report) one =>
      match one.2 with
      | .error complaint => report.complain complaint
      | .ok text =>
          let name := if names.isEmpty then "" else " " ++ one.1
          report.print
            s!"{inBase 10 (cyclicCheck text)} {inBase 10 text.length}{name}\n") ⟨[], false⟩
    (report.ended scene 1).afterReadingOf names

def letters64 : List Char :=
  "ABCDEFGHIJKLMNOPQRSTUVWXYZabcdefghijklmnopqrstuvwxyz0123456789+/".toList

def letters32 : List Char :=
  "ABCDEFGHIJKLMNOPQRSTUVWXYZ234567".toList

/-- How bytes are written in letters: how many bytes make a group, of how many letters, and which
letters. -/
structure Lettering where
  bytes : Nat
  letters : Nat
  alphabet : List Char

def Lettering.encode (lettering : Lettering) (text : String) : String :=
  let base := lettering.alphabet.length
  String.join ((piecesOf lettering.bytes (text.length + 1) text.toList).map fun piece =>
    let value := highFirst piece * Nat.pow 256 (lettering.bytes - piece.length)
    let digits := (List.range lettering.letters).map fun place =>
      lettering.alphabet.getD (value / Nat.pow base (lettering.letters - 1 - place) % base) '='
    let used := (piece.length * 8 * lettering.letters + lettering.bytes * 8 - 1) /
      (lettering.bytes * 8)
    String.ofList (digits.take used) ++ "".pushn '=' (lettering.letters - used))

/-- The bytes that letters stand for, and whether all of them could be read. -/
def Lettering.decode (lettering : Lettering) (text : List Char) : String × Bool :=
  let base := lettering.alphabet.length
  let groups := piecesOf lettering.letters (text.length + 1) text
  groups.foldl (fun ((shown, good) : String × Bool) group =>
    if !good then (shown, good)
    else
      let used := group.takeWhile lettering.alphabet.contains
      let behind := group.drop used.length
      let bytes := used.length * lettering.bytes / lettering.letters
      let value := (used ++ List.replicate (lettering.letters - used.length) 'A').foldl
        (fun value c => value * base + (lettering.alphabet.idxOf? c).getD 0) 0
      let decoded := (List.range bytes).map fun place =>
        Char.ofNat (value / Nat.pow 256 (lettering.bytes - 1 - place) % 256)
      (shown ++ String.ofList decoded,
        behind.all (· == '=') && group.length == lettering.letters && bytes != 0)) ("", true)

def writeLetters (lettering : Lettering) : Utility :=
  withOptions 1 ⟨"diw:", [("decode", 'd'), ("ignore-garbage", 'i'), ("wrap", 'w')]⟩ false
    fun scene choices names =>
      let width := valueOf? choices 'w'
      match names, width.map count? with
      | _ :: extra :: _, _ => extraOperand 1 extra scene names
      | _, some none => scene.failure 1 ("invalid wrap size: " ++ cited (width.getD ""))
      | _, wrap =>
          let readings := scene.readings asIs (names.take 1)
          match complaintsIn readings, (textsIn readings).map (·.2) with
          | complaint :: _, _ => scene.ended 1 "" complaint
          | [], texts =>
              let text := String.join texts
              let ended :=
                if given choices 'd' then
                  let fits (c : Char) : Bool :=
                    if given choices 'i' then lettering.alphabet.contains c || c == '='
                    else c != '\n'
                  let (shown, good) := lettering.decode (text.toList.filter fits)
                  if good then scene.success shown
                  else
                    let complaint := s!"{scene.called}: invalid input\n"
                    let written := [(Stream.output, shown), (Stream.errors, complaint)]
                    ⟨.exited 1, written, scene.input, scene.files⟩
                else
                  let letters := lettering.encode text
                  match (wrap.getD none).getD 76 with
                  | 0 => scene.success letters
                  | width =>
                      scene.success (onLines
                        ((piecesOf width (letters.length + 1) letters.toList).map String.ofList))
              ended.afterReadingOf names

end SqlColumns.Shell.Tools
