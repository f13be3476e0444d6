/-
What can be wrong with a document, as data, and the wording of it. An error in the
form of a document says what was going on (`Activity`) and what was found
(`Problem`), each with its place. A fault is in what the document holds.
-/
import ContainerLint.Text.Base64
import ContainerLint.Text.Digit
import ContainerLint.Text.Utf8
import ContainerLint.Value.Calendar
import ContainerLint.Yaml.Remark

namespace ContainerLint.Yaml

open ContainerLint.Text

/-- What the reader was doing when it met a problem. -/
inductive Activity where
  | simpleKey
  | nextToken
  | directive
  | directiveHandle
  | directivePrefix
  | anchor
  | reference
  | tag
  | tagHandle
  | tagSuffix
  | verbatimTag
  | blockScalar
  | doubleQuoted
  | quotedScalar
  /-- A first line of a block scalar that blank lines before it exceed. -/
  | indentedFollowUp
  | node
  | blockNode
  | flowNode
  | blockSequence
  | blockMapping
  | flowSequence
  | flowMapping
  | singleDocument
  | mapping
  | set
  | orderedMapping
  | pairs
  deriving Repr, DecidableEq

/-- The wording of an activity. -/
def Activity.message : Activity → String
  | .simpleKey => "while scanning a simple key"
  | .nextToken => "while scanning for the next token"
  | .directive => "while scanning a directive"
  | .directiveHandle => "while scanning an directive"
  | .directivePrefix => "while parsing an directive"
  | .anchor => "while scanning an anchor"
  | .reference => "while scanning an alias"
  | .tag => "while scanning a tag"
  | .tagHandle => "while scanning an tag"
  | .tagSuffix => "while parsing an tag"
  | .verbatimTag => "while parsing a tag"
  | .blockScalar => "while scanning a block scalar"
  | .doubleQuoted => "while scanning a double-quoted scalar"
  | .quotedScalar => "while scanning a quoted scalar"
  | .indentedFollowUp => "more indented follow up line than first in a block scalar"
  | .node => "while parsing a node"
  | .blockNode => "while parsing a block node"
  | .flowNode => "while parsing a flow node"
  | .blockSequence => "while parsing a block collection"
  | .blockMapping => "while parsing a block mapping"
  | .flowSequence => "while parsing a flow sequence"
  | .flowMapping => "while parsing a flow mapping"
  | .singleDocument => "expected a single document in the stream"
  | .mapping => "while constructing a mapping"
  | .set => "while constructing a set"
  | .orderedMapping => "while constructing an ordered map"
  | .pairs => "while constructing pairs"

/-- What the reader expected when it met another character. -/
inductive Expectation where
  | nameCharacter
  | digit
  | digitOrPoint
  | space
  | closingAngle
  | exclamation
  | address
  | hexEscape (width : Nat)
  | addressEscape
  | commentOrBreak
  | blockIndicator
  deriving Repr, DecidableEq

/-- The wording of an expectation. -/
def Expectation.message : Expectation → String
  | .nameCharacter => "alphabetic or numeric character"
  | .digit => "a digit"
  | .digitOrPoint => "a digit or '.'"
  | .space => "' '"
  | .closingAngle => "'>'"
  | .exclamation => "'!'"
  | .address => "URI"
  | .hexEscape width => "escape sequence of " ++ toString width ++ " hexdecimal numbers"
  | .addressEscape => "URI escape sequence of 2 hexdecimal numbers"
  | .commentOrBreak => "a comment or a line break"
  | .blockIndicator => "chomping or indentation indicators"

/-- What stands between an expectation and what was found. -/
def Expectation.pause : Expectation → String
  | .exclamation => " "
  | _ => ", "

/-- What is wrong. -/
inductive Problem where
  | missingColon
  | cannotStart (c : Char)
  | sequenceEntryHere
  | mappingKeyHere
  | mappingValueHere
  /-- A character, or the end of the document, in place of something else. -/
  | expected (what : Expectation) (found : Option Char)
  | zeroIndentation
  | unknownEscape (c : Option Char)
  | endOfStream
  | documentSeparator
  | expectedBlockEnd (token : String)
  | expectedInFlow (closing : String) (token : String)
  | expectedContent (token : String)
  | expectedDocumentStart (token : String)
  | contentAfterDocumentEnd (token : String)
  | duplicateVersion
  | incompatibleVersion
  | duplicateHandle (handle : String)
  | undefinedHandle (handle : String)
  | undefinedReference (name : String)
  | anotherDocument
  | unhashableKey
  | duplicateKey (key new old : String)
  | duplicateMerge (key : String)
  | mergeNeedsMappings (kind : String)
  | mergeNeedsMapping (kind : String)
  | unknownTag (tag : String)
  | expectedNode (wanted found : String)
  | badTimestamp (text : String)
  | badBase64 (e : Base64Error)
  | badBytes (e : Utf8Error)
  | duplicateItem (key : String)
  | orderedNeedsSequence (kind : String)
  | orderedNeedsMapping (kind : String)
  | orderedNeedsOne (count : Nat)
  | tooDeep
  deriving Repr, DecidableEq

/-- A character in a message; the end of the document shows as the null character. -/
def foundText : Option Char → String
  | some c => quoted (String.ofList [c])
  | none => "'\\x00'"

/-- The wording of a problem. -/
def Problem.message : Problem → String
  | .missingColon => "could not find expected ':'"
  | .cannotStart c => "found character " ++ foundText (some c) ++ " that cannot start any token"
  | .sequenceEntryHere => "sequence entries are not allowed here"
  | .mappingKeyHere => "mapping keys are not allowed here"
  | .mappingValueHere => "mapping values are not allowed here"
  | .expected what found =>
    "expected " ++ what.message ++ what.pause ++ "but found " ++ foundText found
  | .zeroIndentation => "expected indentation indicator in the range 1-9, but found 0"
  | .unknownEscape c => "found unknown escape character " ++ foundText c
  | .endOfStream => "found unexpected end of stream"
  | .documentSeparator => "found unexpected document separator"
  | .expectedBlockEnd token => "expected <block end>, but found " ++ quoted token
  | .expectedInFlow closing token =>
    "expected ',' or '" ++ closing ++ "', but got " ++ quoted token
  | .expectedContent token => "expected the node content, but found " ++ quoted token
  | .expectedDocumentStart token =>
    "expected '<document start>', but found (" ++ quoted token ++ ",)"
  | .contentAfterDocumentEnd token =>
    "found non-comment content after document end marker, (" ++ quoted token ++ ",)"
  | .duplicateVersion => "found duplicate YAML directive"
  | .incompatibleVersion => "found incompatible YAML document (version 1.* is required)"
  | .duplicateHandle handle => "duplicate tag handle " ++ quoted handle
  | .undefinedHandle handle => "found undefined tag handle " ++ quoted handle
  | .undefinedReference name => "found undefined alias " ++ quoted name
  | .anotherDocument => "but found another document"
  | .unhashableKey => "found unhashable key"
  | .duplicateKey key new old =>
    "found duplicate key \"" ++ key ++ "\" with value \"" ++ new ++ "\" (original value: \"" ++
      old ++ "\")"
  | .duplicateMerge key => "found duplicate merge key \"" ++ key ++ "\""
  | .mergeNeedsMappings kind =>
    "expected a mapping or list of mappings for merging, but found " ++ kind
  | .mergeNeedsMapping kind => "expected a mapping for merging, but found " ++ kind
  | .unknownTag tag => "could not determine a constructor for the tag " ++ quoted tag
  | .expectedNode wanted found => "expected a " ++ wanted ++ " node, but found " ++ found
  | .badTimestamp text => "failed to construct timestamp from \"" ++ text ++ "\""
  | .badBase64 e => e.message
  | .badBytes e => e.message
  | .duplicateItem key => "found duplicate key \"" ++ key ++ "\""
  | .orderedNeedsSequence kind => "expected a sequence, but found " ++ kind
  | .orderedNeedsMapping kind => "expected a mapping of length 1, but found " ++ kind
  | .orderedNeedsOne count => "expected a single mapping item, but found " ++ toString count ++
      " items"
  | .tooDeep => "the document is nested too deeply"

/-- Advice that follows some problems. -/
def Problem.note? : Problem → Option String
  | .duplicateKey .. | .duplicateItem _ => some ("\nTo suppress this check see:\n" ++
      "    https://yaml.dev/doc/ruamel.yaml/api/#Duplicate_keys\n")
  | .duplicateMerge _ => some ("\nTo suppress this check see:\n" ++
      "   https://yaml.dev/doc/ruamel.yaml/api/#Duplicate_keys\n")
  | _ => none

/-- What is wrong with what a document holds, its form being right. -/
inductive Fault where
  /-- A text that is no whole number, or a number without a text. -/
  | numeral (e : NumeralError)
  /-- A text that is no number with a fraction. -/
  | fraction (text : String)
  /-- A number with more or fewer exponents than one. -/
  | exponents (count : Nat)
  /-- A number of which nothing is written where a digit must be. -/
  | emptyNumber
  /-- A word that is no truth value. -/
  | truthWord (word : String)
  | calendar (e : CalendarError)
  /-- An escape with a number that is no character's. -/
  | character (code : Nat)
  /-- A key that holds a value which cannot be part of a key. -/
  | unhashable (kind : String)
  /-- A key that comes twice in an ordered mapping. -/
  | repeatedKey
  /-- An edition of the language that does not exist. -/
  | edition (major minor : Nat)
  /-- Remarks before a scalar that has one in its header. -/
  | crowded
  /-- Something else in the place of a collection. -/
  | notCollection
  /-- Remarks of two tokens that have no room on one. -/
  | collision (moved kept : Remarks)
  deriving Repr, DecidableEq

/-- The wording of a fault. -/
def Fault.message : Fault → String
  | .numeral e => e.message
  | .fraction text => "could not convert string to float: " ++ quoted text
  | .exponents 0 => "not enough values to unpack (expected 2, got 1)"
  | .exponents _ => "too many values to unpack (expected 2)"
  | .emptyNumber => "string index out of range"
  | .truthWord word => quoted word
  | .calendar e => e.message
  | .character code =>
    if code < 0x80000000 then "chr() arg not in range(0x110000)"
    else "Python int too large to convert to C int"
  | .unhashable kind => "unhashable type: " ++ quoted kind
  | .repeatedKey => ""
  | .edition major minor =>
    s!"version minor part can only be 2 or 1, got ({major}, {minor})"
  | .crowded => ""
  | .notCollection => "'ScalarNode' object has no attribute 'flow_style'"
  | .collision moved kept => "overlap in comment " ++ moved.message ++ " " ++ kept.message

/-- An error in a document. -/
inductive Error where
  /-- A character that no document may hold, at an index. -/
  | unreadable (c : Char) (index : Nat)
  /-- A problem at a place, and what was going on from which place. -/
  | marked (during : Option (Activity × Mark)) (problem : Problem) (place : Mark)
  /-- An activity that is an error in itself. -/
  | misplaced (activity : Activity) (place : Mark)
  /-- A fault in what the document holds. -/
  | fault (f : Fault)
  deriving Repr, DecidableEq

namespace Error

/-- The error with its places and their excerpts. -/
def describe (document : List Char) : Error → String
  | .unreadable c index =>
    let digits := hexPadded (if c.toNat < 65536 then 4 else 5) c.toNat
    "unacceptable character #x" ++ String.ofList digits ++
      ": special characters are not allowed\n  in \"<unicode string>\", position " ++ toString index
  | .marked during problem place =>
    let context := match during with
      | some (activity, start) =>
        activity.message :: (if start.sameSpot place then [] else [start.describe document])
      | none => []
    joinWith "\n" (context ++ [problem.message, place.describe document] ++ problem.note?.toList)
  | .misplaced activity place => activity.message ++ "\n" ++ place.describe document
  | .fault f => f.message

/-- The problem alone, with the number of its line if it has one. -/
def brief (document : List Char) : Error → String × Option Nat
  | .marked _ problem place => (problem.message, some (place.line + 1))
  | e => (e.describe document, none)

end Error

end ContainerLint.Yaml
