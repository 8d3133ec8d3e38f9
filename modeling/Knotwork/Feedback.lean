import Knotwork.Text.Similar

/-!
Feedback: advice for the author of a script, as a short document in Markdown.
-/

namespace Knotwork

structure FeedbackPart where
  lines : List Text
  bullets : List Text := []
deriving DecidableEq

structure Feedback where
  heading : Text
  parts : List FeedbackPart
deriving DecidableEq

def asCode (name : Text) : Text := "`" ++ name ++ "`"

def moreThan (shown : Nat) (items : List Text) : List Text :=
  if shown < items.length then ["... and " ++ Text.ofNat (items.length - shown) ++ " more"] else []

namespace FeedbackPart

def render (part : FeedbackPart) : List Text :=
  part.lines ++ part.bullets.map fun (bullet : Text) => ("  - " ++ bullet : Text)

def didYouMean (close : List Text) : List FeedbackPart :=
  match close with
  | [] => []
  | close => [{ lines := ["**Did you mean one of these?**"], bullets := close.map asCode }]

def availableKnots (available : List Text) : FeedbackPart :=
  { lines := ["**Available knots**:"]
    bullets := ((Text.sort available).take 20).map asCode ++ moreThan 20 available }

end FeedbackPart

namespace Feedback

def renderLines (feedback : Feedback) : List Text :=
  ("## " ++ feedback.heading) :: feedback.parts.flatMap fun part => [] :: part.render

def render (feedback : Feedback) : Text := Text.joinWith ['\n'] feedback.renderLines

end Feedback

end Knotwork
