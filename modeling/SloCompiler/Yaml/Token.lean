namespace SloCompiler.Yaml

-- The text of a scalar. An escape may name half of a character beyond the basic plane; a text
-- with such halves is no Unicode text and is kept as octets.
inductive ScalarText where
  | text (s : String)
  | octets (bytes : List UInt8)
  deriving DecidableEq, Repr

inductive Token where
  | versionDirective (major minor : Nat)
  | tagDirective (handle prefixText : String)
  | otherDirective
  | documentStart
  | documentEnd
  | blockSequenceStart
  | blockMappingStart
  | blockEnd
  | flowSequenceStart
  | flowSequenceEnd
  | flowMappingStart
  | flowMappingEnd
  | key
  | value
  | blockEntry
  | flowEntry
  | alias (name : String)
  | anchor (name : String)
  | tag (handle : Option String) (suffix : String)
  | scalar (content : ScalarText) (isPlain : Bool)
  | streamEnd
  deriving DecidableEq, Repr

end SloCompiler.Yaml
