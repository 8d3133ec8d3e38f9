import Knotwork.Command.Arguments
import Knotwork.Text.Cut

/-!
Reading command lines.

An option is a word that starts with a hyphen. Long options have two hyphens and may have a value
behind an equals sign; short ones have a single letter, and several may share a hyphen. The value of
an option is the next word, whatever it is, unless it stands in the same word. Two hyphens alone end
the options.
-/

namespace Knotwork.Arguments

def Parsed.add (parsed : Parsed) (options : List (Text × Text)) : Parsed :=
  { parsed with given := options ++ parsed.given }

def Parsed.addWord (parsed : Parsed) (word : Text) : Parsed :=
  { parsed with words := word :: parsed.words }

structure Pending where
  given : List (Text × Text) := []
  waiting : Option Text := none
deriving DecidableEq

def rule? (rules : List OptionRule) (spelling : Text) : Option OptionRule :=
  rules.find? fun rule => rule.spellings.contains spelling

def readLetters (rules : List OptionRule) : Text → Option Pending
  | [] => some {}
  | c :: rest => do
      let rule ← rule? rules ['-', c]
      if rule.value.isSome then
        match rest with
        | [] => return { waiting := some rule.name }
        | value => return { given := [(rule.name, value)] }
      else
        let pending ← readLetters rules rest
        return { pending with given := (rule.name, []) :: pending.given }

def readOption (rules : List OptionRule) (word : Text) : Option Pending :=
  let (spelling, value?) := match Text.cut? ['='] word with
    | some (spelling, value) => (spelling, some value)
    | none => (word, none)
  match word with
  | '-' :: '-' :: _ => do
      let rule ← rule? rules spelling
      match rule.value.isSome, value? with
      | true, some value => return { given := [(rule.name, value)] }
      | true, none => return { waiting := some rule.name }
      | false, some _ => none
      | false, none => return { given := [(rule.name, [])] }
  | _ => readLetters rules (word.drop 1)

def read (rules : List OptionRule) (mixed : Bool) : List Text → Option Parsed
  | [] => some {}
  | word :: rest =>
      if word = "--" then some { words := rest }
      else if word.head? = some '-' && 1 < word.length then do
        let pending ← readOption rules word
        match pending.waiting with
        | none => return (← read rules mixed rest).add pending.given
        | some name =>
            match rest with
            | [] => none
            | value :: rest =>
                return (← read rules mixed rest).add (pending.given ++ [(name, value)])
      else if mixed then return (← read rules mixed rest).addWord word
      else some { words := word :: rest }

def help : OptionRule := { name := "help", spellings := ["--help"] }

-- The name of a file has no null character.
def fits (content : Content) (word : Text) : Bool := content = .word || !word.contains '\x00'

def areWordsRight (signature : Signature) (words : List Text) : Bool :=
  signature.words.length ≤ words.length &&
    (!signature.mixed || words.length = signature.words.length) &&
    (signature.words.zip words).all fun (content, word) => fits content word

def areValuesRight (signature : Signature) (parsed : Parsed) : Bool :=
  signature.options.all fun rule =>
    match rule.value, parsed.value? rule.name with
    | some content, some value => fits content value
    | _, _ => true

def parse (signature : Signature) (arguments : List Text) : Except NoInvocation Parsed :=
  match read (help :: signature.options) signature.mixed arguments with
  | none => .error .usage
  | some parsed =>
      if parsed.flag help.name then .error .help
      else if areWordsRight signature parsed.words && areValuesRight signature parsed then .ok parsed
      else .error .usage

end Knotwork.Arguments
