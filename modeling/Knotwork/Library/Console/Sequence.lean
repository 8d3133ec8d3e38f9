import Knotwork.Text.Cut

/-!
Control sequences of terminals. Output for other programs goes without them.
-/

namespace Knotwork.Console

def sequenceLength? : Text → Option Nat
  | '[' :: rest =>
      let isParameter (c : Char) := c.isDigit || c = ';' || c = '?'
      let parameters := rest.takeWhile isParameter
      match rest.drop parameters.length with
      | c :: _ => if c.isAlpha then some (parameters.length + 2) else none
      | [] => none
  | _ => none

def withoutSequencesFrom : Nat → Text → Text
  | _, [] => []
  | skip + 1, _ :: rest => withoutSequencesFrom skip rest
  | 0, c :: rest =>
      if c = '\x1b' then
        match sequenceLength? rest with
        | some length => withoutSequencesFrom length rest
        | none => c :: withoutSequencesFrom 0 rest
      else c :: withoutSequencesFrom 0 rest

def outputLine (t : Text) : Text :=
  Text.replace ['\r', '\n'] ['\n'] (withoutSequencesFrom 0 t ++ ['\n'])

end Knotwork.Console
