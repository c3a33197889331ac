import PatternLint.Text.Quoted

/-!
# Why a pattern is refused

`Cause` lists what can be wrong with a pattern.  Most causes have an offset in the pattern; in a
pattern of several lines the message also gives line and column.  Two causes are told apart from all
others, since they are not faults of a single place: a repeat count beyond the engine's range, and
the flags for ASCII and for Unicode both set for the whole pattern.  A repeat count with more than 4300
digits is beyond the range too, although an engine may not even read it as a number.
-/

namespace PatternLint.Pattern

open PatternLint.Text

inductive Cause
  | danglingBackslash
  | badEscape (text : String)
  | incompleteEscape (text : String)
  | octalTooLarge (text : String)
  | missing (what : String)
  | unterminatedName (terminator : String)
  | unknownCharName (name : String)
  | invalidReference (group : Nat)
  | openGroup
  | groupOfSameLookbehind
  | badGroupName (name : String)
  | unknownGroupName (name : String)
  | redefinedGroup (name : String) (group earlier : Nat)
  | badGroupNumber
  | unterminatedSet
  | badRange (first last : String)
  | nothingToRepeat
  | multipleRepeat
  | minAboveMax
  | unexpectedEnd
  | unknownExtension (text : String)
  | unterminatedComment
  | unterminatedGroup
  | tooManyBranches
  | flagsNotAtStart
  | unbalanced
  | localeFlag
  | alphabetFlags
  | alphabetOff
  | unknownFlag
  | wholePatternFlagOn
  | wholePatternFlagOff
  | flagOnAndOff
  | lookbehindTooFar
  | lookbehindWidth
  | templateOperator (name : String)
  deriving DecidableEq, Repr

namespace Cause

def message : Cause → String
  | .danglingBackslash => "bad escape (end of pattern)"
  | .badEscape text => "bad escape " ++ text
  | .incompleteEscape text => "incomplete escape " ++ text
  | .octalTooLarge text => "octal escape value " ++ text ++ " outside of range 0-0o377"
  | .missing what => "missing " ++ what
  | .unterminatedName terminator => "missing " ++ terminator ++ ", unterminated name"
  | .unknownCharName name => "undefined character name " ++ quoted name
  | .invalidReference group => "invalid group reference " ++ toString group
  | .openGroup => "cannot refer to an open group"
  | .groupOfSameLookbehind =>
    "cannot refer to group defined in the same lookbehind subpattern"
  | .badGroupName name => "bad character in group name " ++ quoted name
  | .unknownGroupName name => "unknown group name " ++ quoted name
  | .redefinedGroup name group earlier =>
    "redefinition of group name " ++ quoted name ++ " as group " ++ toString group ++
      "; was group " ++ toString earlier
  | .badGroupNumber => "bad group number"
  | .unterminatedSet => "unterminated character set"
  | .badRange first last => "bad character range " ++ first ++ "-" ++ last
  | .nothingToRepeat => "nothing to repeat"
  | .multipleRepeat => "multiple repeat"
  | .minAboveMax => "min repeat greater than max repeat"
  | .unexpectedEnd => "unexpected end of pattern"
  | .unknownExtension text => "unknown extension ?" ++ text
  | .unterminatedComment => "missing ), unterminated comment"
  | .unterminatedGroup => "missing ), unterminated subpattern"
  | .tooManyBranches => "conditional backref with more than two branches"
  | .flagsNotAtStart => "global flags not at the start of the expression"
  | .unbalanced => "unbalanced parenthesis"
  | .localeFlag => "bad inline flags: cannot use 'L' flag with a str pattern"
  | .alphabetFlags => "bad inline flags: flags 'a', 'u' and 'L' are incompatible"
  | .alphabetOff => "bad inline flags: cannot turn off flags 'a', 'u' and 'L'"
  | .unknownFlag => "unknown flag"
  | .wholePatternFlagOn => "bad inline flags: cannot turn on global flag"
  | .wholePatternFlagOff => "bad inline flags: cannot turn off global flag"
  | .flagOnAndOff => "bad inline flags: flag turned on and off"
  | .lookbehindTooFar => "looks too much behind"
  | .lookbehindWidth => "look-behind requires fixed-width pattern"
  | .templateOperator name => "internal: unsupported template operator " ++ name

end Cause

/-- A cause with its offset in the pattern, where it has one. -/
structure Fault where
  cause : Cause
  offset : Option Nat
  deriving DecidableEq, Repr

namespace Fault

/-- The message about a fault of the pattern `source`. -/
def message (f : Fault) (source : String) : String :=
  match f.offset with
  | none => f.cause.message
  | some pos =>
    let text := f.cause.message ++ " at position " ++ toString pos
    let cs := source.toList
    if cs.contains '\n' then
      let before := cs.take pos
      let line := before.count '\n' + 1
      let column := (before.reverse.takeWhile (· != '\n')).length + 1
      text ++ " (line " ++ toString line ++ ", column " ++ toString column ++ ")"
    else text

end Fault

/-- The outcome of a pattern that cannot be used. -/
inductive Refusal
  | fault (f : Fault)
  | repeatTooLarge
  | asciiAndUnicode
  deriving DecidableEq, Repr

namespace Refusal

def message (r : Refusal) (source : String) : String :=
  match r with
  | .fault f => f.message source
  | .repeatTooLarge => "the repetition number is too large"
  | .asciiAndUnicode => "ASCII and UNICODE flags are incompatible"

end Refusal

end PatternLint.Pattern
