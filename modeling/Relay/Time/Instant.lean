import Relay.Json.Reader
import Relay.Text.Blank
import Relay.Time.Date

/-!
# Instants

Points in time to the nanosecond, in universal time. They are read from a date, a time of day and an
offset, with blanks allowed between the parts, and written with a `Z` for the offset and as many
digits of the second as are needed, in groups of three. A leap second is kept as the sixtieth second
of its minute.
-/

namespace Relay.Time

/-- **An instant**: a date, the second of the day, and the nanoseconds, which reach a whole second
more inside a leap second. -/
structure Instant where
  date : Date
  second : Nat
  nano : Nat
  deriving DecidableEq

/-! ## (1) Writing -/

/-- A number with leading zeros up to the given width. -/
def padded (width n : Nat) : List Char :=
  let digits := Nat.toDigits 10 n
  List.replicate (width - digits.length) '0' ++ digits

/-- A year: four digits, with a sign if it has more of them or is negative. -/
def writeYear (year : Int) : List Char :=
  if 0 ≤ year ∧ year ≤ 9999 then padded 4 year.toNat
  else (if year < 0 then '-' else '+') :: padded 4 year.natAbs

/-- The fraction of a second: nothing, or three, six or nine digits behind a point. -/
def writeFraction (nano : Nat) : List Char :=
  if nano = 0 then []
  else if nano % 1000000 = 0 then '.' :: padded 3 (nano / 1000000)
  else if nano % 1000 = 0 then '.' :: padded 6 (nano / 1000)
  else '.' :: padded 9 nano

/-- **The text of an instant.** -/
def Instant.text (instant : Instant) : String :=
  let date := instant.date
  let second := instant.second % 60 + instant.nano / 1000000000
  String.ofList (writeYear date.year ++ '-' :: padded 2 date.month ++ '-' :: padded 2 date.day ++
    'T' :: padded 2 (instant.second / 3600) ++ ':' :: padded 2 (instant.second / 60 % 60) ++
    ':' :: padded 2 second ++ writeFraction (instant.nano % 1000000000) ++ ['Z'])

/-! ## (2) Reading -/

/-- A text without its leading blanks. -/
def skipBlanks (text : List Char) : List Char := text.dropWhile Text.isWhiteSpace

/-- The number at the start of a text: one to `width` digits, as many as there are. -/
def number? (width : Nat) (text : List Char) : Option (Nat × List Char) :=
  let digits := (text.take width).takeWhile Char.isDigit
  if digits.isEmpty then none
  else some (Nat.ofDigitChars 10 digits 0, text.drop digits.length)

/-- The year at the start of a text: up to four digits, or any number of them behind a sign. -/
def year? (text : List Char) : Option (Int × List Char) :=
  match text with
  | '-' :: rest => (number? rest.length rest).map fun (n, rest) => (-(n : Int), rest)
  | '+' :: rest => (number? rest.length rest).map fun (n, rest) => ((n : Int), rest)
  | text => (number? 4 text).map fun (n, rest) => ((n : Int), rest)

/-- A text behind the character `c`, which has to be its first one. -/
def after? (c : Char) : List Char → Option (List Char)
  | [] => none
  | first :: rest => if first = c then some rest else none

/-- The nanoseconds behind the point at the start of a text, if there is one; digits behind the
ninth are dropped. -/
def nano? (text : List Char) : Option (Nat × List Char) :=
  match text with
  | '.' :: rest =>
    (number? 9 rest).map fun (n, behind) =>
      (n * Nat.pow 10 (9 - (rest.length - behind.length)), behind.dropWhile Char.isDigit)
  | text => some (0, text)

/-- Two digits at the start of a text. -/
def twoDigits? : List Char → Option (Nat × List Char)
  | a :: b :: rest =>
    if a.isDigit ∧ b.isDigit then some (Nat.ofDigitChars 10 [a, b] 0, rest) else none
  | _ => none

/-- **The offset at the start of a text**, in minutes: a `Z`, the letters `UTC`, or a sign and hours
and minutes of two digits each, with colons and blanks between them. -/
def offset? (text : List Char) : Option (Int × List Char) :=
  match text with
  | 'Z' :: rest | 'z' :: rest => some (0, rest)
  | sign :: rest =>
    if (text.take 3).map Char.toUpper = ['U', 'T', 'C'] then some (0, text.drop 3)
    else if sign ≠ '+' ∧ sign ≠ '-' ∧ sign ≠ '\u2212' then none
    else do
      let (hours, rest) ← twoDigits? rest
      let (minutes, rest) ← twoDigits? (rest.dropWhile fun c => c = ':' || Text.isWhiteSpace c)
      if minutes < 60 then
        let size : Int := hours * 60 + minutes
        return (if sign = '+' then size else -size, rest)
      else none
  | [] => none

/-- The instant of a local date and time that is `offset` minutes ahead of universal time, if the
offset is less than a day and dates are kept for the universal date. -/
def Instant.ofLocal? (date : Date) (second nano : Nat) (offset : Int) : Option Instant :=
  if offset.natAbs < 24 * 60 then
    let shifted : Int := second - offset * 60
    if shifted < 0 then date.previous?.map fun date => ⟨date, (shifted + 86400).toNat, nano⟩
    else if 86400 ≤ shifted then date.next?.map fun date => ⟨date, (shifted - 86400).toNat, nano⟩
    else some ⟨date, shifted.toNat, nano⟩
  else none

/-- **The instant that a text denotes**, if it denotes one. -/
def Instant.ofText? (text : String) : Option Instant := do
  let (year, rest) ← year? (skipBlanks text.toList)
  let rest ← after? '-' (skipBlanks rest)
  let (month, rest) ← number? 2 (skipBlanks rest)
  let rest ← after? '-' (skipBlanks rest)
  let (day, rest) ← number? 2 (skipBlanks rest)
  let rest ← after? 'T' rest <|> after? 't' rest <|> after? ' ' rest
  let (hour, rest) ← number? 2 (skipBlanks rest)
  let rest ← after? ':' (skipBlanks rest)
  let (minute, rest) ← number? 2 (skipBlanks rest)
  let rest ← after? ':' (skipBlanks rest)
  let (second, rest) ← number? 2 (skipBlanks rest)
  let (nano, rest) ← nano? rest
  let (offset, rest) ← offset? (skipBlanks rest)
  let date ← Date.of? year month day
  if hour < 24 ∧ minute < 60 ∧ second ≤ 60 ∧ skipBlanks rest = [] then
    let start := hour * 3600 + minute * 60
    if second = 60 then Instant.ofLocal? date (start + 59) (nano + 1000000000) offset
    else Instant.ofLocal? date (start + second) nano offset
  else none

/-- Reading an instant. -/
def Instant.read : Json.Reader Instant := fun node => do
  match Instant.ofText? (← Json.readText node) with
  | some instant => .ok instant
  | none => .error .mismatch

end Relay.Time
