import ConfigVault.Calendar.Moment
import ConfigVault.Instance.Host.Utility.Words

/-!
# Facts about the system

Utilities that tell what system it is, who uses it, what time it is, and the factors of numbers.
-/

namespace ConfigVault.Host.Utility

/-! ## The system -/

/-- The facts that tell what system it is, by the letters that ask for them, in order. -/
def systemFacts : List (Char × Raw) :=
  [('s', "Linux"), ('n', "host"), ('r', "6.1.0"), ('v', "#1 SMP"), ('m', "x86_64"), ('o', "GNU/Linux")]

def uname : List Raw → Task Nat :=
  withChoices [flag 'a' "all", flag 's' "kernel-name", flag 'n' "nodename", flag 'r' "kernel-release",
    flag 'v' "kernel-version", flag 'm' "machine", flag 'p' "processor", flag 'i' "hardware-platform",
    flag 'o' "operating-system"] 1 fun c => do
    match c.arguments with
    | extra :: _ => refuse ("extra operand " ++ cited extra) 1
    | [] =>
      let unknown := if c.has 'p' || c.has 'i' then ["unknown"] else []
      let asked :=
        if c.has 'a' then systemFacts
        else systemFacts.filter fun f => c.has f.1
      let told := asked.map Prod.snd ++ (if c.has 'a' then [] else unknown)
      Task.out (String.intercalate " " (if told.isEmpty then ["Linux"] else told) ++ "\n")
      return 0

def tty : List Raw → Task Nat :=
  withChoices [flag 's' "silent", longFlag 's' "quiet"] 2 fun c => do
    match c.arguments with
    | extra :: _ => refuse ("extra operand " ++ cited extra) 2
    | [] =>
      if !c.has 's' then Task.out "not a tty\n"
      return 1

/-! ## Numbers -/

/-- The prime factors of a number that has none below `d`, within `fuel` steps. -/
def factorsFrom : (fuel d n : Nat) → List Nat
  | 0, _, n => [n]
  | fuel + 1, d, n =>
    if n ≤ 1 then []
    else if n < d * d then [n]
    else if n % d = 0 then d :: factorsFrom fuel d (n / d)
    else factorsFrom fuel (if d = 2 then 3 else d + 2) n

def factorSteps : Nat := 100000

/-- Tells the prime factors of numbers; the numbers are told behind all complaints. -/
def factor (arguments : List Raw) : Task Nat := do
  let words ← if arguments.isEmpty then do
      let content ← Task.input
      pure ((content.split fun c => c = ' ' || c = '\t' || c = '\n').toStringList.filter fun w => !w.isEmpty)
    else pure arguments
  let status ← each words fun word => do
    if (Raw.nat? word.toList).isSome then return 0
    else
      Task.complain (cited word ++ " is not a valid positive integer")
      return 1
  Task.out (String.join ((words.filterMap fun w => Raw.nat? w.toList).map fun n =>
    toString n ++ ":" ++ String.join ((factorsFrom factorSteps 2 n).map fun d => " " ++ toString d) ++ "\n"))
  return status

/-! ## Time -/

def firstSecond? : Option Calendar.Reading := Calendar.Reading.ofNumbers? 1970 1 1 0 0 0 0

def weekdays : List Raw :=
  ["Sunday", "Monday", "Tuesday", "Wednesday", "Thursday", "Friday", "Saturday"]

def months : List Raw :=
  ["January", "February", "March", "April", "May", "June", "July", "August", "September", "October",
    "November", "December"]

def zeroPadded (width n : Nat) : Raw :=
  ({ Layout.plain with precision := some width } : Layout).digits 10 n

def timePart (seconds : Int) (r : Calendar.Reading) (c : Char) : Raw :=
  let date := r.date
  let time := r.time
  let weekday := date.ordinal % 7
  let dayOfYear := date.ordinal - Calendar.daysBeforeYear date.year
  let month := months.getD (date.month - 1) ""
  let day := weekdays.getD weekday ""
  let hour12 := if time.hour % 12 = 0 then 12 else time.hour % 12
  match c with
  | 'Y' => zeroPadded 4 date.year
  | 'y' => zeroPadded 2 (date.year % 100)
  | 'm' => zeroPadded 2 date.month
  | 'd' => zeroPadded 2 date.day
  | 'e' => rightAligned 2 date.day
  | 'H' => zeroPadded 2 time.hour
  | 'I' => zeroPadded 2 hour12
  | 'M' => zeroPadded 2 time.minute
  | 'S' => zeroPadded 2 time.second
  | 'p' => if time.hour < 12 then "AM" else "PM"
  | 'N' => "000000000"
  | 's' => toString seconds
  | 'F' => date.isoText
  | 'T' => zeroPadded 2 time.hour ++ ":" ++ zeroPadded 2 time.minute ++ ":" ++
      zeroPadded 2 time.second
  | 'R' => zeroPadded 2 time.hour ++ ":" ++ zeroPadded 2 time.minute
  | 'D' => zeroPadded 2 date.month ++ "/" ++ zeroPadded 2 date.day ++ "/" ++ zeroPadded 2 (date.year % 100)
  | 'A' => day
  | 'a' => (day.take 3).toString
  | 'B' => month
  | 'b' => (month.take 3).toString
  | 'h' => (month.take 3).toString
  | 'j' => zeroPadded 3 dayOfYear
  | 'u' => toString (if weekday = 0 then 7 else weekday)
  | 'w' => toString weekday
  | 'z' => "+0000"
  | 'Z' => "UTC"
  | 'k' => rightAligned 2 time.hour
  | 'l' => rightAligned 2 hour12
  | 'C' => zeroPadded 2 (date.year / 100)
  | 'c' => (day.take 3).toString ++ " " ++ (month.take 3).toString ++ " " ++ rightAligned 2 date.day ++ " " ++
      zeroPadded 2 time.hour ++ ":" ++ zeroPadded 2 time.minute ++ ":" ++ zeroPadded 2 time.second ++ " " ++
      zeroPadded 4 date.year
  | 'x' => zeroPadded 2 date.month ++ "/" ++ zeroPadded 2 date.day ++ "/" ++ zeroPadded 2 (date.year % 100)
  | 'X' => zeroPadded 2 time.hour ++ ":" ++ zeroPadded 2 time.minute ++ ":" ++ zeroPadded 2 time.second
  | 'n' => "\n"
  | 't' => "\t"
  | '%' => "%"
  | c => "%" ++ c.toString

def timeText (seconds : Int) (r : Calendar.Reading) : List Char → Raw
  | '%' :: '-' :: c :: rest =>
    let part := (timePart seconds r c).toList
    let bare := part.dropWhile fun d => d = '0' || d = ' '
    String.ofList (if bare.isEmpty then part.drop (part.length - 1) else bare) ++ timeText seconds r rest
  | '%' :: ':' :: 'z' :: rest => "+00:00" ++ timeText seconds r rest
  | '%' :: c :: rest => timePart seconds r c ++ timeText seconds r rest
  | c :: rest => c.toString ++ timeText seconds r rest
  | [] => ""

def timeAt (seconds : Int) (template : Raw) : Raw :=
  match firstSecond?.bind fun first => first.shift? seconds with
  | some r => timeText seconds r template.toList
  | none => ""

def secondsAt? (year month day hour minute second : Nat) : Option Int :=
  match Calendar.Reading.ofNumbers? year month day hour minute second 0, firstSecond? with
  | some r, some first =>
    some (((r.date.ordinal : Int) - first.date.ordinal) * 86400 + (hour * 60 + minute) * 60 + second)
  | _, _ => none

/-- The seconds for a word: a number of them behind a mark, or a date. -/
def secondsOf? (word : Raw) : Option Int :=
  match word.toList with
  | '@' :: cs => Raw.int? cs
  | cs =>
    match (Raw.splitAt '-' word).map fun w => Raw.nat? w.toList with
    | [some year, some month, some day] => secondsAt? year month day 0 0 0
    | _ => if cs = "now".toList then some 0 else none

/-- Tells the time, or another one that is asked for, in universal time. -/
def date : List Raw → Task Nat :=
  withChoices [flag 'u' "utc", valued 'd' "date", valued 'r' "reference", flag 'R' "rfc-email",
    longFlag 'U' "universal"] 1 fun c => do
    if let _ :: extra :: _ := c.arguments then
      return ← refuse ("extra operand " ++ cited extra) 1
    let template? : Except Raw (List Char) :=
      match c.arguments with
      | [] => .ok (if c.has 'R' then "%a, %d %b %Y %T %z" else "%a %b %e %T %Z %Y").toList
      | word :: _ =>
        match word.toList with
        | '+' :: cs => .ok cs
        | _ => .error ("invalid date " ++ cited word)
    match template?, c.value? 'd' with
    | .error message, _ =>
      Task.complain message
      return 1
    | .ok template, word =>
      match (match word with
        | some word => secondsOf? word
        | none => some 0), firstSecond? with
      | some seconds, some first =>
        match first.shift? seconds with
        | some r => Task.out (timeText seconds r template ++ "\n")
        | none => Task.complain "time is out of range"
        return 0
      | _, _ =>
        Task.complain ("invalid date " ++ cited (word.getD ""))
        return 1

def factUtilities : List (Raw × Program) :=
  [("uname", .plain uname), ("arch", .plain (always "x86_64")), ("nproc", .plain (always "1")),
    ("hostname", .plain (always "host")), ("tty", .plain tty), ("factor", .plain factor),
    ("date", .plain date)]

end ConfigVault.Host.Utility
