import CertPress.Shell.Invocation

/-!
# Lines

Utilities that print their input line by line: all of it, its start or its end,
parts of every line, or the lines in another order.
-/

namespace CertPress.Shell

open ShellAction

/-- A number at the right of a field of some width. -/
def numberAtRight (width number : Nat) : List Char :=
  let digits := Nat.toDigits 10 number
  List.replicate (width - digits.length) ' ' ++ digits

/-- A character that is not printed, in a notation with printed ones. -/
def visibleChar (char : Char) : List Char :=
  let code := char.toNat
  let low (code : Nat) : List Char :=
    if code < 0x20 then ['^', Char.ofNat (code + 0x40)]
    else if code = 0x7F then ['^', '?'] else [Char.ofNat code]
  if char == '\n' || char == '\t' then [char]
  else if code < 0x80 then low code else 'M' :: '-' :: low (code - 0x80)

/-- Number lines from a number on. -/
def numberedLines (skipsEmpty : Bool) : Nat → List (List Char) → List (List Char)
  | _, [] => []
  | number, line :: rest =>
      if skipsEmpty && line.isEmpty then line :: numberedLines skipsEmpty number rest
      else (numberAtRight 6 number ++ '\t' :: line) :: numberedLines skipsEmpty (number + 1) rest

/-- Lines without empty ones that follow an empty one. -/
def squeezedLines : List (List Char) → List (List Char)
  | [] :: [] :: rest => squeezedLines ([] :: rest)
  | line :: rest => line :: squeezedLines rest
  | [] => []

/-- Print files one after another. -/
def concatenate : Utility :=
  withOptions "AbeEnstTuv"
    [("number", 'n'), ("number-nonblank", 'b'), ("squeeze-blank", 's'), ("show-ends", 'E'),
     ("show-tabs", 'T'), ("show-nonprinting", 'v'), ("show-all", 'A')] 1 fun call options => do
  let has (letters : String) : Bool := letters.toList.any options.has
  let shows := has "AbeEnstTv"
  forEachText call options.operands fun _ text => do
    if !shows then call.say text
    else
      let (lines, isEnded) := linesOf text
      let squeezed := if options.has 's' then squeezedLines lines else lines
      let visible := squeezed.map fun line => line.flatMap fun char =>
        if char == '\t' then (if has "AtT" then ['^', 'I'] else [char])
        else if has "AetTEv" && (has "Aetv") then visibleChar char else [char]
      let marked := if has "AeE" then
          (visible.zipIdx.map fun (line, index) =>
            if isEnded || index + 1 < visible.length then line ++ ['$'] else line)
        else visible
      let numbered := if has "bn" then numberedLines (options.has 'b') 1 marked else marked
      call.say (joinLinesAs isEnded numbered)

/-- The first lines of a text. -/
def firstLines : Nat → List Char → List Char
  | _, [] => []
  | 0, _ => []
  | count + 1, char :: rest =>
      if char = '\n' then char :: firstLines count rest else char :: firstLines (count + 1) rest

/-- The text after the first lines. -/
def afterLines : Nat → List Char → List Char
  | _, [] => []
  | 0, chars => chars
  | count + 1, char :: rest =>
      if char = '\n' then afterLines count rest else afterLines (count + 1) rest

/-- The number of lines of a text, of which the last one may have no end. -/
def countLines (text : List Char) : Nat := (linesOf text).1.length

/-- A number of lines or bytes with a sign, and the factor that a letter gives
it. -/
def readCount? (text : String) : Option (Option Char × Nat) := do
  let chars := text.toList
  let sign := chars.head?.filter fun char => char == '-' || char == '+'
  let digits := if sign.isSome then chars.drop 1 else chars
  let number := digits.takeWhile Char.isDigit
  let factor ← match String.ofList (digits.drop number.length) with
    | "" => some 1
    | "b" => some 512
    | "k" => some 1024
    | "K" => some 1024
    | "kB" => some 1000
    | "M" => some 1048576
    | _ => none
  return (sign, (← Text.decimal? number) * factor)

/-- The heading of a file among several. -/
def heading (isFirst : Bool) (name : String) : List Char :=
  (if isFirst then [] else ['\n']) ++ ("==> " ++ name ++ " <==\n").toList

/-- The name of an input in headings. -/
def inputName (operand : String) : String :=
  if operand = "-" then "standard input" else operand

/-- The arguments with an old option such as `-5` in its present form. -/
def withModernCount (arguments : List String) : List String :=
  match arguments with
  | first :: rest =>
      match first.toList with
      | '-' :: digits => if (Text.decimal? digits).isSome then "-n" :: String.ofList digits :: rest
          else arguments
      | '+' :: digits => if (Text.decimal? digits).isSome then "-n" :: first :: rest else arguments
      | _ => arguments
  | [] => []

/-- How much is read of an input at once. -/
def blockLength : Nat := 8192

/-- Take the start of the input that a part of its text shows, and what was read
with it: the rest of a block, unless bytes are counted. -/
def takeStart (countsBytes : Bool) (shown : List Char → List Char) :
    ShellAction (Except String (List Char)) := do
  match ← remaining? 0 with
  | none => return .error "Bad file descriptor"
  | some source =>
      let start := shown (charsOf source.content)
      let taken := if source.isFile || countsBytes then start.length
        else (start.length + blockLength - 1) / blockLength * blockLength
      leaveOf 0 (source.content.drop taken)
      return .ok start

/-- Print the start or the end of files. -/
def printPart (kind : String) (isAtEnd : Bool) (shown : Char → Option Char → Nat → List Char → List Char) :
    Utility := fun call =>
  withOptions "n:c:qvf" [("lines", 'n'), ("bytes", 'c'), ("quiet", 'q'), ("verbose", 'v')] 1
    (fun call options => do
      let (unit, given) := match options.given.reverse.find? fun (letter, _) =>
          letter == 'n' || letter == 'c' with
        | some (letter, value) => (letter, value)
        | none => ('n', "10")
      match readCount? given with
      | none =>
          call.complain ("invalid number of " ++ (if unit == 'c' then "bytes" else "lines") ++
            ": " ++ quotedName given)
          return 1
      | some (sign, count) =>
          let operands := if options.operands.isEmpty then ["-"] else options.operands
          let hasHeadings := (1 < operands.length && !options.has 'q') || options.has 'v'
          let (_, failed) ← operands.foldlM (fun (isFirst, failed) operand => do
            let text ← if operand = "-" && !isAtEnd && sign != some '-' then
                takeStart (unit == 'c') (shown unit sign count)
              else pure ((← textOf operand).map (shown unit sign count))
            match text with
            | .ok part =>
                if hasHeadings then call.say (heading isFirst (inputName operand))
                call.say part
                return (false, failed)
            | .error reason =>
                if reason = "Is a directory" then
                  call.complain ("error reading " ++ quotedName operand ++ ": " ++ reason)
                else
                  call.complain ("cannot open " ++ quotedName operand ++ " for " ++ kind ++ ": " ++
                    reason)
                return (isFirst, true)) (true, false)
          return if failed then 1 else 0)
    { call with arguments := withModernCount call.arguments }

/-- Print the first lines or bytes of files; with a minus sign all but the last
ones. -/
def printStart : Utility :=
  printPart "reading" false fun unit sign count text =>
    let all := if unit == 'c' then text.length else countLines text
    let wanted := if sign == some '-' then all - count else count
    if unit == 'c' then text.take wanted else firstLines wanted text

/-- Print the last lines or bytes of files; with a plus sign all from a line or
byte on. -/
def printEnd : Utility :=
  printPart "reading" true fun unit sign count text =>
    let all := if unit == 'c' then text.length else countLines text
    let skipped := if sign == some '+' then count - 1 else all - count
    if unit == 'c' then text.drop skipped else afterLines skipped text

/-- The number of words of a text. -/
def countWords (text : List Char) : Nat :=
  let isSpace (char : Char) : Bool := char == ' ' || (9 ≤ char.toNat && char.toNat ≤ 13)
  (text.foldl (fun (count, inWord) char =>
    if isSpace char then (count, false) else (if inWord then count else count + 1, true))
    (0, false)).1

/-- The greatest length of a line. -/
def longestLine (text : List Char) : Nat :=
  ((linesOf text).1.map List.length).foldl max 0

/-- Count the lines, words and bytes of files. -/
def printCounts : Utility :=
  withOptions "clmwL" [("bytes", 'c'), ("lines", 'l'), ("chars", 'm'), ("words", 'w')] 1
    fun call options => do
  let chosen := "lwmcL".toList.filter options.has
  let kinds := if chosen.isEmpty then ['l', 'w', 'c'] else chosen
  let operands := if options.operands.isEmpty then ["-"] else options.operands
  let countsOf (text : List Char) : List Nat := kinds.map fun kind =>
    match kind with
    | 'l' => text.count '\n'
    | 'w' => countWords text
    | 'L' => longestLine text
    | _ => text.length
  let stdin ← remaining? 0
  let isRegular := operands.all fun operand => operand != "-" || stdin.any (·.isFile)
  let contents ← operands.mapM fun operand => do return (operand, ← textOf operand)
  let size := (contents.map fun (_, text) => (text.toOption.getD []).length).foldl (· + ·) 0
  let width := if kinds.length = 1 && operands.length = 1 then 1
    else max (if isRegular then 1 else 7) (Nat.toDigits 10 size).length
  let row (counts : List Nat) (name : String) : List Char :=
    Text.join ' ' (counts.map (numberAtRight width)) ++
      (if name = "" then ['\n'] else ' ' :: (name ++ "\n").toList)
  let (totals, failed) ← contents.foldlM (fun (totals, failed) (operand, text) => do
    match text with
    | .ok text =>
        let counts := countsOf text
        call.say (row counts (if options.operands.isEmpty then "" else operand))
        return (List.zipWith (· + ·) totals counts, failed)
    | .error reason =>
        call.complain (shownName operand ++ ": " ++ reason)
        if reason = "Is a directory" then call.say (row (kinds.map fun _ => 0) operand)
        return (totals, true)) (kinds.map fun _ => 0, false)
  if 1 < operands.length then call.say (row totals "total")
  return if failed then 1 else 0

/-- Print the lines of files in reverse. -/
def printReversed : Utility :=
  withOptions "b" [] 1 fun call options =>
    forEachText call options.operands fun _ text => do
      let (lines, isEnded) := linesOf text
      match isEnded, lines.reverse with
      | false, last :: before => call.say (last ++ joinLines before)
      | _, reversed => call.say (joinLines reversed)

/-- Print every line of files from its end. -/
def printMirrored : Utility :=
  withOptions "" [] 1 fun call options =>
    forEachText call options.operands fun _ text => do
      let (lines, isEnded) := linesOf text
      call.say (joinLinesAs isEnded (lines.map List.reverse))

/-- Print the lines of files with their numbers. -/
def printNumbered : Utility :=
  withOptions "b:w:s:v:n:" [("body-numbering", 'b')] 1 fun call options =>
    forEachText call options.operands fun _ text => do
      let all := options.value? 'b' == some "a"
      let width := ((options.value? 'w').bind (Text.decimal? ·.toList)).getD 6
      let gap := ((options.value? 's').getD "\t").toList
      let start := ((options.value? 'v').bind (Text.decimal? ·.toList)).getD 1
      let (lines, _) := linesOf text
      let (_, shown) := lines.foldl (fun (number, shown) line =>
        if line.isEmpty && !all then
          (number, (List.replicate (width + gap.length) ' ') :: shown)
        else (number + 1, (numberAtRight width number ++ gap ++ line) :: shown)) (start, [])
      call.say (joinLines shown.reverse)

/-- Pieces of at most `width` characters; with `atBlanks` they end after a blank
where that is possible.  The fuel is the number of characters. -/
def foldedLine (width : Nat) (atBlanks : Bool) : (fuel : Nat) → List Char → List (List Char)
  | 0, line => [line]
  | fuel + 1, line =>
      if line.length ≤ width then [line]
      else
        let piece := line.take width
        let kept := (piece.reverse.dropWhile (· != ' ')).reverse
        let piece := if atBlanks && !kept.isEmpty then kept else piece
        if piece.isEmpty then [line]
        else piece :: foldedLine width atBlanks fuel (line.drop piece.length)

/-- Break long lines. -/
def foldLines : Utility :=
  withOptions "w:sb" [("width", 'w'), ("spaces", 's')] 1 fun call options =>
    forEachText call options.operands fun _ text => do
      let width := ((options.value? 'w').bind (Text.decimal? ·.toList)).getD 80
      let (lines, isEnded) := linesOf text
      call.say (joinLinesAs isEnded
        (lines.flatMap fun line => foldedLine width (options.has 's') line.length line))

/-- Put blanks in place of tabs in a line.  `column` is where it starts. -/
def expandedLine (width : Nat) (column : Nat) : List Char → List Char
  | [] => []
  | '\t' :: rest =>
      let filling := width - column % width
      List.replicate filling ' ' ++ expandedLine width (column + filling) rest
  | char :: rest => char :: expandedLine width (column + 1) rest

/-- Put blanks in place of tabs. -/
def expandTabs : Utility :=
  withOptions "t:i" [("tabs", 't')] 1 fun call options =>
    forEachText call options.operands fun _ text => do
      let width := max 1 (((options.value? 't').bind (Text.decimal? ·.toList)).getD 8)
      let (lines, isEnded) := linesOf text
      call.say (joinLinesAs isEnded (lines.map (expandedLine width 0)))

/-! ### Parts of lines -/

/-- Where the reading of a list of ranges stands. -/
structure RangeReading where
  /-- The number in front of a dash; none without one. -/
  first : Option Nat
  /-- The number behind it. -/
  last : Option Nat
  hasDash : Bool
  ranges : List (Nat × Option Nat)
  deriving Inhabited

namespace RangeReading

/-- A range before its first character. -/
def fresh (ranges : List (Nat × Option Nat)) : RangeReading := ⟨none, none, false, ranges⟩

/-- The message for positions that start with zero. -/
def zeroFault (ofFields : Bool) : String :=
  if ofFields then "fields are numbered from 1" else "byte/character positions are numbered from 1"

/-- The range comes to an end. -/
def close (reading : RangeReading) (ofFields : Bool) : Except String RangeReading :=
  let low := reading.first.getD 1
  if reading.hasDash then
    match reading.first, reading.last with
    | none, none => .error "invalid range with no endpoint: -"
    | _, none => .ok (fresh ((low, none) :: reading.ranges))
    | _, some high =>
        if high < low then .error "invalid decreasing range"
        else .ok (fresh ((low, some high) :: reading.ranges))
  else if reading.first.getD 0 = 0 then .error (zeroFault ofFields)
  else .ok (fresh ((low, some low) :: reading.ranges))

/-- Read a list such as `1,3-5,7-`. -/
def read (ofFields : Bool) (reading : RangeReading) :
    List Char → Except String (List (Nat × Option Nat))
  | [] => do return (← reading.close ofFields).ranges
  | char :: rest =>
      if char == '-' then
        if reading.hasDash then
          .error (if ofFields then "invalid field range" else "invalid byte or character range")
        else if reading.first = some 0 then .error (zeroFault ofFields)
        else read ofFields { reading with hasDash := true } rest
      else if char == ',' || char == ' ' || char == '\t' then do
        read ofFields (← reading.close ofFields) rest
      else match Text.digitValue? char with
        | some digit =>
            let extend (number : Option Nat) : Option Nat := some (number.getD 0 * 10 + digit)
            read ofFields
              (if reading.hasDash then { reading with last := extend reading.last }
                else { reading with first := extend reading.first }) rest
        | none =>
            .error ((if ofFields then "invalid field value " else "invalid byte/character position ")
              ++ quotedName (String.ofList (char :: rest)))

end RangeReading

/-- Whether a position belongs to ranges. -/
def inRanges (ranges : List (Nat × Option Nat)) (position : Nat) : Bool :=
  ranges.any fun (low, high) => low ≤ position && high.all (position ≤ ·)

/-- The items whose positions belong to ranges, or do not. -/
def chosenItems {α : Type} (ranges : List (Nat × Option Nat)) (others : Bool) (items : List α) :
    List α :=
  (items.zipIdx.filter fun (_, index) => inRanges ranges (index + 1) != others).map (·.1)

/-- Print parts of every line. -/
def cutLines : Utility :=
  withOptions "b:c:d:f:nsz"
    [("bytes", 'b'), ("characters", 'c'), ("delimiter", 'd'), ("fields", 'f'),
     ("only-delimited", 's'), ("complement", 'C'), ("output-delimiter", 'o')] 1 fun call options => do
  let lists := options.given.filter fun (letter, _) => ['b', 'c', 'f'].contains letter
  match lists with
  | [] => call.refuse "you must specify a list of bytes, characters, or fields" 1
  | _ :: _ :: _ => call.refuse "only one list may be specified" 1
  | [(letter, list)] =>
      let ofFields := letter == 'f'
      let delimiters := (options.value? 'd').getD "\t"
      if 1 < delimiters.length then
        call.refuse "the delimiter must be a single character" 1
      else if !ofFields && options.has 'd' then
        call.refuse "an input delimiter may be specified only when operating on fields" 1
      else if !ofFields && options.has 's' then
        call.refuse
          "suppressing non-delimited lines makes sense\n\tonly when operating on fields" 1
      else match RangeReading.read ofFields (.fresh []) list.toList with
      | .error reason => call.refuse reason 1
      | .ok ranges =>
          let others := options.has 'C'
          let delimiter := delimiters.toList.headD '\x00'
          let between := (options.value? 'o').map String.toList
          let part (line : List Char) : Option (List Char) :=
            if !ofFields then some (chosenItems ranges others line)
            else
              let fields := Text.split delimiter line
              if fields.length = 1 then if options.has 's' then none else some line
              else
                let kept := chosenItems ranges others fields
                some (List.intercalate (between.getD [delimiter]) kept)
          forEachText call options.operands fun _ text =>
            call.say (joinLines ((linesOf text).1.filterMap part))

/-- Put the lines of several texts side by side. -/
def besideLines (delimiters : List Char) (texts : List (List (List Char))) : List (List Char) :=
  let rows := (texts.map List.length).foldl max 0
  (List.range rows).map fun row =>
    (texts.zipIdx.map fun (lines, column) =>
      let line := lines.getD row []
      if column + 1 = texts.length then line
      else line ++ [delimiters.getD (column % delimiters.length) '\t']).flatten

/-- Put the lines of files side by side, or the lines of each file into one. -/
def pasteLines : Utility :=
  withOptions "d:sz" [("delimiters", 'd'), ("serial", 's')] 1 fun call options => do
  let given := ((options.value? 'd').getD "\t").toList
  let rec resolved : List Char → List Char
    | '\\' :: 'n' :: rest => '\n' :: resolved rest
    | '\\' :: 't' :: rest => '\t' :: resolved rest
    | '\\' :: char :: rest => char :: resolved rest
    | char :: rest => char :: resolved rest
    | [] => []
  let delimiters := if given.isEmpty then ['\x00'] else resolved given
  let operands := if options.operands.isEmpty then ["-"] else options.operands
  let inputs := operands.count "-"
  let texts ← operands.eraseDups.mapM fun operand => do return (operand, ← textOf operand)
  match texts.find? fun (_, text) => match text with
      | .ok _ => false
      | .error _ => true with
  | some (operand, .error reason) =>
      call.complain (shownName operand ++ ": " ++ reason)
      return 1
  | _ =>
      let linesFor (operand : String) : List (List Char) :=
        ((texts.find? (·.1 == operand)).map fun (_, text) =>
          (linesOf (text.toOption.getD [])).1).getD []
      let (_, columns) := operands.foldl (fun (seen, columns) operand =>
        if operand = "-" then
          (seen + 1, columns ++ [((linesFor operand).zipIdx.filter fun (_, index) =>
            index % inputs == seen).map (·.1)])
        else (seen, columns ++ [linesFor operand])) (0, [])
      if options.has 's' then
        for column in columns do
          let pieces := column.zipIdx.map fun (line, index) =>
            if index + 1 = column.length then line
            else line ++ [delimiters.getD (index % delimiters.length) '\t']
          call.say (pieces.flatten ++ ['\n'])
      else call.say (joinLines (besideLines delimiters columns))
      return 0

/-- Print the input, and write it to files too. -/
def printAndWrite : Utility :=
  withOptions "ai" [("append", 'a')] 1 fun call options => do
  let bytes := (← takeAll 0).getD []
  call.say (charsOf bytes)
  Invocation.forEach options.operands fun operand => do
    match descriptorOf? operand with
    | some descriptor => print descriptor bytes
    | none =>
        if operand = "/dev/null" then return true
        let path := pathOf operand
        let old := match (← get).disk.find path with
          | .ok (_, .file content executable) => (content, executable)
          | _ => ([], false)
        let content := if options.has 'a' then old.1 ++ bytes else bytes
        match ← onDisk (Disk.write path content old.2) with
        | .ok _ => return true
        | .error fault =>
            call.complain (shownName operand ++ ": " ++ fault.reason)
            return false

/-! ### Order -/

/-- The number at the start of a text as a sign, the digits before the point and
those after it. -/
def leadingNumber (chars : List Char) : Bool × List Char × List Char :=
  let trimmed := chars.dropWhile fun char => char == ' ' || char == '\t'
  let isNegative := trimmed.head? == some '-'
  let unsigned := if isNegative then trimmed.drop 1 else trimmed
  let whole := unsigned.takeWhile Char.isDigit
  let fraction := match unsigned.drop whole.length with
    | '.' :: digits => digits.takeWhile Char.isDigit
    | _ => []
  let significant := Text.dropLeading '0' whole
  let tail := Text.dropTrailing '0' fraction
  (isNegative && !(significant.isEmpty && tail.isEmpty), significant, tail)

/-- The order of texts by their bytes. -/
def compareTexts (left right : List Char) : Ordering := compareOfLessAndEq left right

/-- The order of texts by the numbers at their start. -/
def compareNumbers (left right : List Char) : Ordering :=
  let magnitude (first second : List Char × List Char) : Ordering :=
    (compare first.1.length second.1.length).then
      ((compareTexts first.1 second.1).then (compareTexts first.2 second.2))
  match leadingNumber left, leadingNumber right with
  | (false, first), (false, second) => magnitude first second
  | (true, first), (true, second) => magnitude second first
  | (true, _), (false, _) => .lt
  | (false, _), (true, _) => .gt

/-- A part of lines by which they are sorted: where it starts and ends, as a
field and a character in it, and the letters of its options. -/
structure SortKey where
  first : Nat × Nat
  last : Option (Nat × Nat)
  letters : List Char
  deriving Inhabited

namespace SortKey

/-- A place in a key such as `2.3n`. -/
def place? (text : List Char) : Option (Nat × Nat × List Char) := do
  let field := text.takeWhile Char.isDigit
  let (offset, letters) := match text.drop field.length with
    | '.' :: rest =>
        let digits := rest.takeWhile Char.isDigit
        ((Text.decimal? digits).getD 0, rest.drop digits.length)
    | rest => (0, rest)
  return (← Text.decimal? field, offset, letters)

/-- The key that a text such as `2,3n` stands for. -/
def ofText? (text : String) : Option SortKey := do
  match Text.cut? [','] text.toList with
  | none =>
      let (field, offset, letters) ← place? text.toList
      return ⟨(field, max 1 offset), none, letters⟩
  | some (start, stop) =>
      let (field, offset, letters) ← place? start
      let (endField, endOffset, endLetters) ← place? stop
      return ⟨(field, max 1 offset), some (endField, endOffset), letters ++ endLetters⟩

end SortKey

/-- Where the fields of a line start and end.  Without a delimiter the blanks in
front belong to a field. -/
def fieldSpans (delimiter : Option Char) (line : List Char) : List (Nat × Nat) :=
  match delimiter with
  | some char =>
      ((Text.split char line).foldl (fun (start, spans) field =>
        (start + field.length + 1, spans ++ [(start, start + field.length)])) (0, [])).2
  | none =>
      let isBlank (char : Char) : Bool := char == ' ' || char == '\t'
      let rec spans (fuel start : Nat) (rest : List Char) : List (Nat × Nat) :=
        match fuel with
        | 0 => []
        | fuel + 1 =>
            if rest.isEmpty then []
            else
              let blanks := (rest.takeWhile isBlank).length
              let length := blanks + ((rest.drop blanks).takeWhile (!isBlank ·)).length
              (start, start + length) :: spans fuel (start + length) (rest.drop length)
      spans (line.length + 1) 0 line

/-- The part of a line that a key stands for. -/
def keyText (delimiter : Option Char) (key : SortKey) (line : List Char) : List Char :=
  let spans := fieldSpans delimiter line
  let skipsBlanks := key.letters.contains 'b' || key.letters.contains 'n'
  let start := match spans[key.first.1 - 1]? with
    | some (start, stop) =>
        let blanks := if skipsBlanks then
            ((line.drop start).takeWhile fun char => char == ' ' || char == '\t').length else 0
        min (start + blanks + (key.first.2 - 1)) (max stop start)
    | none => line.length
  let stop := match key.last with
    | none => line.length
    | some (field, offset) =>
        match spans[field - 1]? with
        | some (first, last) => if offset = 0 then last else min (first + offset) last
        | none => line.length
  (line.drop start).take (stop - start)

/-- The order of two texts by the letters of options. -/
def compareBy (letters : List Char) (left right : List Char) : Ordering :=
  let trim (chars : List Char) : List Char :=
    if letters.contains 'b' then chars.dropWhile fun char => char == ' ' || char == '\t' else chars
  let fold (chars : List Char) : List Char :=
    let kept := if letters.contains 'd' then
        chars.filter fun char => char.isAlphanum || char == ' ' || char == '\t' else chars
    if letters.contains 'f' then kept.map Char.toUpper else kept
  let order := if letters.contains 'n' || letters.contains 'g' || letters.contains 'h' then
      compareNumbers left right
    else compareTexts (fold (trim left)) (fold (trim right))
  if letters.contains 'r' then order.swap else order

/-- Sort the lines of files. -/
def sortLines : Utility :=
  withOptions "bcCdfghik:mno:rst:uVz"
    [("reverse", 'r'), ("unique", 'u'), ("numeric-sort", 'n'), ("key", 'k'),
     ("field-separator", 't'), ("ignore-case", 'f'), ("stable", 's'), ("output", 'o'),
     ("ignore-leading-blanks", 'b'), ("check", 'c')] 2 fun call options => do
  let letters := "bdfghinr".toList.filter options.has
  let delimiter := (options.value? 't').bind fun text => text.toList.head?
  let keys := (options.values 'k').filterMap SortKey.ofText?
  let compareKeys (left right : List Char) : Ordering :=
    if keys.isEmpty then compareBy letters left right
    else keys.foldl (fun order key =>
      let own := if key.letters.isEmpty then { key with letters } else key
      order.then (compareBy own.letters (keyText delimiter own left) (keyText delimiter own right)))
      .eq
  let plain := options.has 's' || options.has 'u'
  let compareLines (left right : List Char) : Ordering :=
    let order := compareKeys left right
    if plain then order
    else order.then (if letters.contains 'r' then compareTexts right left
      else compareTexts left right)
  let operands := if options.operands.isEmpty then ["-"] else options.operands
  let texts ← operands.mapM fun operand => do return (operand, ← textOf operand)
  match texts.filterMap fun (operand, text) => match text with
      | .ok _ => none
      | .error reason => some (operand, reason) with
  | (operand, reason) :: _ =>
      call.complain ((if reason = "Is a directory" then "read failed: " else "cannot read: ") ++
        shownName operand ++ ": " ++ reason)
      return 2
  | [] =>
      let lines := texts.flatMap fun (_, text) => (linesOf (text.toOption.getD [])).1
      let sorted := lines.mergeSort fun left right => compareLines left right != .gt
      if options.has 'c' || options.has 'C' then return if sorted == lines then 0 else 1
      let rec distinct : List (List Char) → List (List Char)
        | first :: second :: rest =>
            if compareKeys first second == .eq then distinct (first :: rest)
            else first :: distinct (second :: rest)
        | rest => rest
      termination_by lines => lines.length
      let shown := joinLines (if options.has 'u' then distinct sorted else sorted)
      match options.value? 'o' with
      | none => call.say shown
      | some target => let _ ← onDisk (Disk.write (pathOf target) (octets shown) false)
      return 0

/-- The runs of lines that are the same. -/
def runsOfLines (same : List Char → List Char → Bool) : List (List Char) → List (List Char × Nat)
  | [] => []
  | line :: rest =>
      match runsOfLines same rest with
      | (next, count) :: runs =>
          if same line next then (line, count + 1) :: runs else (line, 1) :: (next, count) :: runs
      | [] => [(line, 1)]

/-- Print one line of each run of lines that are the same. -/
def distinctLines : Utility :=
  withOptions "cdDuif:s:w:z"
    [("count", 'c'), ("repeated", 'd'), ("unique", 'u'), ("ignore-case", 'i')] 1 fun call options => do
  let number (letter : Char) : Nat := ((options.value? letter).bind (Text.decimal? ·.toList)).getD 0
  let isBlank (char : Char) : Bool := char == ' ' || char == '\t'
  let rec skipFields : Nat → List Char → List Char
    | 0, line => line
    | count + 1, line => skipFields count ((line.dropWhile isBlank).dropWhile (!isBlank ·))
  let keyOf (line : List Char) : List Char :=
    let kept := (skipFields (number 'f') line).drop (number 's')
    let shortened := if options.has 'w' then kept.take (number 'w') else kept
    if options.has 'i' then shortened.map Char.toLower else shortened
  let (inputs, output?) := match options.operands with
    | [input, output] => ([input], some output)
    | inputs => (inputs, none)
  forEachText call inputs fun _ text => do
    let runs := runsOfLines (fun left right => keyOf left == keyOf right) (linesOf text).1
    let chosen := runs.filter fun (_, count) =>
      !(options.has 'd' && count < 2) && !(options.has 'u' && 1 < count)
    let shown := joinLines (chosen.map fun (line, count) =>
      if options.has 'c' then numberAtRight 7 count ++ ' ' :: line else line)
    match output? with
    | none => call.say shown
    | some output => let _ ← onDisk (Disk.write (pathOf output) (octets shown) false)

/-- The lines of two sorted lists: those of the first, of the second, and of
both.  The fuel is the number of lines. -/
def merged : (fuel : Nat) → List (List Char) → List (List Char) → List (Nat × List Char)
  | 0, _, _ => []
  | fuel + 1, left, right =>
      match left, right with
      | [], [] => []
      | line :: rest, [] => (1, line) :: merged fuel rest []
      | [], line :: rest => (2, line) :: merged fuel [] rest
      | first :: others, second :: more =>
          match compareTexts first second with
          | .lt => (1, first) :: merged fuel others right
          | .gt => (2, second) :: merged fuel left more
          | .eq => (3, first) :: merged fuel others more

/-- Compare the lines of two sorted files. -/
def compareSorted : Utility :=
  withOptions "123" [] 1 fun call options => do
  match options.operands with
  | [left, right] =>
      match ← textOf left, ← textOf right with
      | .ok left, .ok right =>
          let (left, right) := ((linesOf left).1, (linesOf right).1)
          let isHidden (column : Nat) : Bool := options.has (Char.ofNat (48 + column))
          for (column, line) in merged (left.length + right.length) left right do
            if !isHidden column then
              let before := ([1, 2].filter fun other => other < column && !isHidden other).length
              call.say (List.replicate before '\t' ++ line ++ ['\n'])
          return 0
      | .error reason, _ =>
          call.complain (shownName left ++ ": " ++ reason)
          return 1
      | _, .error reason =>
          call.complain (shownName right ++ ": " ++ reason)
          return 1
  | _ => call.refuse "missing operand" 1

end CertPress.Shell
