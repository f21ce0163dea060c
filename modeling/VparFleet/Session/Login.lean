import VparFleet.Fault.Cause
import VparFleet.Settings.Credentials
import VparFleet.Text.Blank
import VparFleet.Text.Find

/-!
# Logging in

A login first offers the password. If the server refuses it, the server may ask questions instead;
those for the password are answered, any other question ends the login.

* `login`: how a login ends when the server answers in a given way.
* `answer`: the answer to a question.
-/

namespace VparFleet.Session

/-- What a server answers during a login. -/
inductive LoginReply where
  /-- The login is complete. -/
  | accepted
  /-- What was offered is not enough. -/
  | refused
  /-- The server wants answers to questions. -/
  | asked (questions : List String)
  /-- The connection failed. -/
  | failed (cause : SessionCause)
  deriving DecidableEq, Repr

/-- How often questions are answered before giving up. -/
def maxRounds : Nat := 3

/-- Whether a question is one for the password. -/
def asksForPassword (question : String) : Bool :=
  Text.occurs "password".toList (question.toList.map Char.toLower)

/-- The fault of a question without a known answer. -/
def unknownQuestion (question : String) : Fault :=
  ⟨.protocol, "unrecognized challenge: " ++ String.ofList (Text.trim question.toList)⟩

/-- The answer to a question. -/
def answer (password question : String) : Outcome String :=
  if asksForPassword question then .ok password else .error (unknownQuestion question)

/-- The fault of a login that the server refused for good. -/
def rejected : Fault :=
  ⟨.protocol, "authentication rejected"⟩

/-- The fault of a login that goes on asking. -/
def stillAsked : Fault :=
  ⟨.protocol, s!"authentication still challenged after {maxRounds} rounds"⟩

/-- Answers questions for so many rounds at most. Nothing means that the server stays silent. -/
def answerRounds (password : String) : Nat → List LoginReply → Option (Outcome Unit)
  | 0, [] => none
  | 0, .failed cause :: _ => some (.error cause.fault)
  | 0, _ => some (.error stillAsked)
  | _ + 1, [] => none
  | _ + 1, .accepted :: _ => some (.ok ())
  | _ + 1, .refused :: _ => some (.error rejected)
  | _ + 1, .failed cause :: _ => some (.error cause.fault)
  | rounds + 1, .asked questions :: replies =>
    match questions.mapM (answer password) with
    | .error fault => some (.error fault)
    | .ok _ => answerRounds password rounds replies

/-- How a login ends when the server answers in this way. Nothing means that the server stays
silent. -/
def login (credentials : Credentials) : List LoginReply → Option (Outcome Unit)
  | [] => none
  | .accepted :: _ => some (.ok ())
  | .failed cause :: _ => some (.error cause.fault)
  -- The password was not enough, so the server is asked for its questions.
  | _ :: replies => answerRounds credentials.password maxRounds replies

end VparFleet.Session
