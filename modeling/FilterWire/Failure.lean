import FilterWire.CodecError
import FilterWire.Files.Error

/-!
# Failures

Everything that can go wrong outside the codec proper, together with the errors of the codec.
-/

namespace FilterWire

inductive Failure
  | codec (cause : CodecError)
  | missingKey (key : Text)
  /-- The value at hand has no such operation. -/
  | unsupported
  /-- The value at hand is of a kind that the operation does not take. -/
  | unfit
  /-- A registry would hold a token or a label twice. -/
  | duplicate (cause : Duplicate)
  | unknownFormat (name : Text)
  | unknownLevel
  /-- A settings document breaks the grammar. -/
  | malformedSettings
  | integerTooLong
  | notUtf8
  /-- A text holds an unpaired surrogate and cannot be encoded. -/
  | unwritable
  /-- A path names a character that no path may hold. -/
  | unusablePath
  | unknownHome
  | malformedPattern
  | file (cause : FileError)

namespace Failure

def message : Failure → Text
  | codec cause => cause.message
  | missingKey key => key.quoted
  | duplicate cause => cause.message
  | unknownFormat name => "Unknown output format: ".toList ++ name
  | file cause => cause.message
  | unsupported => "the value has no such operation".toList
  | unfit => "the value is of the wrong type".toList
  | unknownLevel => "unknown log level".toList
  | malformedSettings => "the document is malformed".toList
  | integerTooLong => "an integer has too many digits".toList
  | notUtf8 => "the bytes are not UTF-8".toList
  | unwritable => "a surrogate is unpaired".toList
  | unusablePath => "a path holds a null character".toList
  | unknownHome => "unknown home directory".toList
  | malformedPattern => "a brace stands alone".toList

end Failure

end FilterWire
