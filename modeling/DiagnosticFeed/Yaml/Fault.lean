import DiagnosticFeed.Decimal.Reading
import DiagnosticFeed.Text.Quoted

/-!
# Faults of YAML texts

Everything that makes a text no YAML document, by cause. A text can also be a document in which some
scalar has no value, although its form or its tag promises one; these causes are kept apart.
-/

namespace DiagnosticFeed.Yaml

/-- The parts of a date and a time of day. -/
inductive DatePart where
  | year
  | month
  | day
  | hour
  | minute
  | second
  deriving DecidableEq

/-- Why a scalar has no value. -/
inductive ScalarFault where
  /-- Text that should spell a whole number in a base. -/
  | badNumeral (base : Nat) (text : String)
  /-- A whole number of too many digits. -/
  | longNumeral (digits : Nat)
  /-- Text that should spell a number. -/
  | badDecimal (text : String)
  /-- No text where a number should be. -/
  | emptyNumber
  /-- A number of so many places in base sixty that the first of them counts for too much. -/
  | tooManyPlaces
  /-- Text that should be a word for true or false. -/
  | badTruth (text : String)
  /-- Text that should have the form of a date. -/
  | notADate
  /-- A mapping where the text of a date should be. -/
  | mappingAsDate
  /-- A part of a date or time that is out of range. -/
  | badDate (part : DatePart)
  /-- A time zone, in minutes, that is a day or more away from the common one. -/
  | farZone (minutes : Int)
  /-- The code of a character beyond the last one there is. -/
  | beyondLastCharacter
  /-- The code of a character that is too large to be looked at. -/
  | hugeCharacter
  deriving DecidableEq

def DatePart.message : DatePart → String
  | year => "year 0 is out of range"
  | month => "month must be in 1..12"
  | day => "day is out of range for month"
  | hour => "hour must be in 0..23"
  | minute => "minute must be in 0..59"
  | second => "second must be in 0..59"

/-- A span of minutes as days and the seconds of a further day, those parts that are not zero. -/
def spanMessage (minutes : Int) : String :=
  let days := minutes.fdiv 1440
  let seconds := 60 * minutes.fmod 1440
  "datetime.timedelta("
    ++ ", ".intercalate ((if days = 0 then [] else ["days=" ++ toString days])
      ++ (if seconds = 0 then [] else ["seconds=" ++ toString seconds])) ++ ")"

/-- How much of a text that should spell a whole number is shown. -/
def shownNumeral : Nat := 200

def ScalarFault.message : ScalarFault → String
  | badNumeral base text =>
    "invalid literal for int() with base " ++ toString base ++ ": "
      ++ String.ofList ((Text.quoted text).toList.take shownNumeral)
  | longNumeral digits => Decimal.longMessage digits
  | badDecimal text => "could not convert string to float: " ++ Text.quoted text
  | emptyNumber => "string index out of range"
  | tooManyPlaces => "int too large to convert to float"
  | badTruth text => Text.quoted text
  | notADate => "No date"
  | mappingAsDate => "Mapping in place of a date"
  | badDate part => part.message
  | farZone minutes =>
    "offset must be a timedelta strictly between -timedelta(hours=24) and timedelta(hours=24), not "
      ++ spanMessage minutes ++ "."
  | beyondLastCharacter => "chr() arg not in range(0x110000)"
  | hugeCharacter => "Character code too large"

/-- The kind of failure that a scalar without a value is. -/
def ScalarFault.kind : ScalarFault → String
  | badNumeral .. | longNumeral _ | badDecimal _ | badDate _ | farZone _ | beyondLastCharacter =>
    "ValueError"
  | emptyNumber => "IndexError"
  | badTruth _ => "KeyError"
  | notADate => "AttributeError"
  | mappingAsDate => "TypeError"
  | tooManyPlaces | hugeCharacter => "OverflowError"

/-- Why a text cannot be read as YAML. -/
inductive Fault where
  | unprintable
  | strayCharacter
  /-- A line that must be a key has no colon. -/
  | colonMissing
  | entryMisplaced
  | keyMisplaced
  | valueMisplaced
  | badDirective
  | badAnchor
  | badTag
  | badBlockHeader
  | quoteOpen
  | badEscape
  | markerInQuote
  | unexpectedToken
  | undefinedAlias
  | repeatedAnchor
  | undefinedHandle
  | secondDocument
  | badMerge
  | unhashableKey
  | unknownTag
  /-- A scalar or collection that its tag does not fit. -/
  | tagMismatch
  /-- Text that should stand for bytes. -/
  | badBinary
  /-- Collections inside collections, too many of them. -/
  | tooDeep
  /-- A scalar has no value, or a number or character in the text is none. -/
  | noValue (why : ScalarFault)
  deriving DecidableEq

end DiagnosticFeed.Yaml
